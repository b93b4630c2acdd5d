import MutationTesting.Proofs.Text.Spelling

/-! What bytes are read as, whatever they are. A reading takes them apart into characters and into
broken parts, each as long as it can be. There is one reading of all bytes, and it is what decoding
gives; text is read back as it was written, between whatever other bytes it stands.
-/

namespace MutationTesting.Utf8

-----------------------------------------------------------------------------------------
-- Taking bytes apart
-----------------------------------------------------------------------------------------

/-- Bytes that are the first ones of a character, or all of them. -/
def StartsCharacter (part : List UInt8) : Prop :=
  ∃ c : Char, part <+: String.utf8EncodeChar c

/-- No character stands at the front of the bytes. The broken part there is one byte, or more if
these start a character, and then as many as do.
-/
structure Broken (part rest : List UInt8) : Prop where
  noCharacter : ∀ c : Char, ¬ String.utf8EncodeChar c <+: part ++ rest
  nonempty : part ≠ []
  starts : part.length = 1 ∨ StartsCharacter part
  longest
    : ∀ longer, longer <+: part ++ rest → StartsCharacter longer → longer.length ≤ part.length

/-- What a part of the bytes is read as, given the bytes after it. -/
inductive ReadsPart : (part rest : List UInt8) → Char → Prop
  | character (c : Char) {rest : List UInt8} : ReadsPart (String.utf8EncodeChar c) rest c
  | broken {part rest : List UInt8} (broken : Broken part rest) : ReadsPart part rest replacement

/-- Bytes are read part by part. -/
inductive Reads : List UInt8 → List Char → Prop
  | done : Reads [] []
  | next {bytes part rest c text} (split : bytes = part ++ rest) (front : ReadsPart part rest c)
    (others : Reads rest text)
    : Reads bytes (c :: text)

-----------------------------------------------------------------------------------------
-- Characters and their first bytes
-----------------------------------------------------------------------------------------

section Characters

variable {byte : UInt8} {part bytes more : List UInt8} {c d : Char}

theorem utf8EncodeChar_ne_nil (c : Char) : String.utf8EncodeChar c ≠ [] := by
  obtain ⟨byte, following, spelled, -⟩ := exists_spells c
  rw [spelled]
  exact List.cons_ne_nil byte following

/-- Bytes start a character when the first one asks for what follows. -/
theorem startsCharacter_cons_iff
    : StartsCharacter (byte :: part)
      ↔ ∃ count low high,
          leadRange? byte = some (count, low, high) ∧ Continues count low high part := by
  constructor
  · rintro ⟨c, start⟩
    obtain ⟨first, following, spelled, ⟨low, high, asks, continues⟩, -⟩ := exists_spells c
    rw [spelled, List.cons_prefix_cons] at start
    obtain ⟨rfl, start⟩ := start
    exact ⟨_, low, high, asks, continues.of_prefix start⟩
  · rintro ⟨count, low, high, asks, continues⟩
    obtain ⟨more, rfl, whole⟩ := continues.extend (leadRange?_ordered asks)
    have spells : Spells byte (part ++ more) _ := ⟨⟨low, high, asks, whole⟩, rfl⟩
    obtain ⟨c, -, spelled⟩ := spells.encodes
    refine ⟨c, ?_⟩
    rw [spelled, ← List.cons_append]
    exact List.prefix_append _ more

/-- No two characters stand at the front of the same bytes. -/
theorem char_eq_of_prefix (left : String.utf8EncodeChar c <+: bytes)
    (right : String.utf8EncodeChar d <+: bytes)
    : c = d := by
  obtain ⟨byte, following, spelled, ⟨low, high, asks, -⟩, number⟩ := exists_spells c
  obtain ⟨byte', others, spelledToo, ⟨low', high', asksToo, -⟩, numberToo⟩ := exists_spells d
  rw [spelled] at left
  rw [spelledToo] at right
  obtain ⟨rest, rfl, start⟩ := List.cons_prefix_iff.mp left
  obtain ⟨rfl, startToo⟩ := List.cons_prefix_cons.mp right
  rw [asks] at asksToo
  have sameLength : following.length = others.length :=
    congrArg Prod.fst (Option.some.inj asksToo)
  have less := List.prefix_of_prefix_length_le start startToo (Nat.le_of_eq sameLength)
  obtain rfl : following = others := less.eq_of_length sameLength
  exact Char.toNat_inj.mp (number.symm.trans numberToo)

/-- The start of a character does not go on with a byte that continues none. -/
theorem StartsCharacter.inside (starts : StartsCharacter part) (nonempty : bytes ≠ [])
    (apart : ∀ byte ∈ more.head?, isContinuation byte = false) (start : part <+: bytes ++ more)
    : part <+: bytes := by
  rcases List.prefix_or_prefix_of_prefix start (List.prefix_append bytes more) with less | longer
  · exact less
  · obtain ⟨extra, rfl⟩ := longer
    cases extra with
    | nil => simp
    | cons byte extra =>
        obtain ⟨first, bytes, rfl⟩ := List.exists_cons_of_ne_nil nonempty
        obtain ⟨count, low, high, asks, continues⟩ := startsCharacter_cons_iff.mp starts
        have follows : isContinuation byte :=
          continues.isContinuation (leadRange?_bounds asks) byte (by simp)
        rw [List.prefix_append_right_inj] at start
        obtain ⟨more, rfl, -⟩ := List.cons_prefix_iff.mp start
        exact absurd follows (Bool.eq_false_iff.mp (apart byte rfl))

end Characters

-----------------------------------------------------------------------------------------
-- There is one way to take bytes apart
-----------------------------------------------------------------------------------------

section Uniqueness

variable {part rest other others bytes : List UInt8} {c d : Char}

/-- A broken part is no longer than any other one that can be taken in its place. -/
theorem Broken.length_le (broken : Broken part rest) (brokenToo : Broken other others)
    (same : part ++ rest = other ++ others)
    : part.length ≤ other.length := by
  rcases broken.starts with single | starts
  · rw [single]
    exact List.length_pos_iff.mpr brokenToo.nonempty
  · exact brokenToo.longest part (same ▸ List.prefix_append part rest) starts

theorem ReadsPart.nonempty (reads : ReadsPart part rest c) : part ≠ [] := by
  cases reads with
  | character => exact utf8EncodeChar_ne_nil c
  | broken broken => exact broken.nonempty

/-- The part at the front of some bytes and what it is read as are determined by the bytes. -/
theorem ReadsPart.unique (reads : ReadsPart part rest c) (readsToo : ReadsPart other others d)
    (same : part ++ rest = other ++ others)
    : (part = other ∧ rest = others) ∧ c = d := by
  cases reads with
  | character =>
      cases readsToo with
      | character =>
          have left : String.utf8EncodeChar c <+: String.utf8EncodeChar d ++ others :=
            same ▸ List.prefix_append _ rest
          obtain rfl := char_eq_of_prefix left (List.prefix_append _ others)
          exact ⟨⟨rfl, List.append_cancel_left same⟩, rfl⟩
      | broken brokenToo =>
          exact absurd (same ▸ List.prefix_append _ rest) (brokenToo.noCharacter c)
  | broken broken =>
      cases readsToo with
      | character =>
          exact absurd (same ▸ List.prefix_append _ others) (broken.noCharacter d)
      | broken brokenToo =>
          have sameLength := Nat.le_antisymm (broken.length_le brokenToo same)
            (brokenToo.length_le broken same.symm)
          exact ⟨List.append_inj same sameLength, rfl⟩

/-- Bytes are read in one way only, by induction on one of the readings. -/
theorem Reads.unique {text texts : List Char} (reads : Reads bytes text)
    (readsToo : Reads bytes texts)
    : text = texts := by
  induction reads generalizing texts with
  | done =>
      cases readsToo with
      | done => rfl
      | next split front => exact absurd (List.append_eq_nil_iff.mp split.symm).1 front.nonempty
  | next split front _ ih =>
      cases readsToo with
      | done => exact absurd (List.append_eq_nil_iff.mp split.symm).1 front.nonempty
      | next splitToo frontToo others =>
          obtain ⟨⟨-, rfl⟩, rfl⟩ := front.unique frontToo (split.symm.trans splitToo)
          rw [ih others]

end Uniqueness

-----------------------------------------------------------------------------------------
-- Decoding is a reading
-----------------------------------------------------------------------------------------

section Decoding

variable {byte low high : UInt8} {part rest : List UInt8} {count : Nat} {c : Char}

/-- The start of a character is no longer than what is counted. -/
theorem StartsCharacter.length_le (starts : StartsCharacter part) (start : part <+: byte :: rest)
    (asks : leadRange? byte = some (count, low, high))
    : part.length ≤ continuationLength count low high rest + 1 := by
  cases part with
  | nil => exact Nat.zero_le _
  | cons first part =>
      obtain ⟨rfl, follows⟩ := List.cons_prefix_cons.mp start
      obtain ⟨_, _, _, asksToo, continues⟩ := startsCharacter_cons_iff.mp starts
      obtain ⟨rfl, rfl, rfl⟩ : _ = count ∧ _ = low ∧ _ = high := by simpa [asks] using asksToo.symm
      exact Nat.succ_le_succ (continues.length_le_continuationLength follows)

/-- A character has as many further bytes as its first one asks for. -/
theorem length_utf8EncodeChar (start : String.utf8EncodeChar c <+: byte :: rest)
    (asks : leadRange? byte = some (count, low, high))
    : (String.utf8EncodeChar c).length = count + 1 := by
  obtain ⟨first, following, spelled, ⟨_, _, asksToo, -⟩, -⟩ := exists_spells c
  rw [spelled] at start ⊢
  obtain ⟨rfl, -⟩ := List.cons_prefix_cons.mp start
  rw [asks] at asksToo
  exact congrArg Nat.succ (congrArg Prod.fst (Option.some.inj asksToo)).symm

/-- A first byte that asks for nothing starts no character. -/
theorem not_startsCharacter (nothing : leadRange? byte = none)
    : ¬ StartsCharacter (byte :: part) := by
  intro starts
  obtain ⟨count, low, high, asks, -⟩ := startsCharacter_cons_iff.mp starts
  rw [nothing] at asks
  contradiction

/-- A first byte that asks for nothing is a broken part of its own. -/
theorem broken_of_nothing (nothing : leadRange? byte = none) : Broken [byte] rest := by
  have noStart : ∀ part, part <+: byte :: rest → StartsCharacter part → part = [] := by
    intro part start starts
    cases part with
    | nil => rfl
    | cons first part =>
        obtain ⟨rfl, -⟩ := List.cons_prefix_cons.mp start
        exact absurd starts (not_startsCharacter nothing)
  refine ⟨?_, List.cons_ne_nil byte [], Or.inl rfl, ?_⟩
  · intro c start
    exact utf8EncodeChar_ne_nil c (noStart _ start ⟨c, List.prefix_refl _⟩)
  · intro longer start starts
    rw [noStart longer start starts]
    exact Nat.zero_le _

/-- When some of the bytes that are asked for are missing, then those that are there are a broken
part together with the first one.
-/
theorem broken_of_missing (asks : leadRange? byte = some (count, low, high))
    (missing : continuationLength count low high rest ≠ count)
    : let taken := continuationLength count low high rest
      Broken (byte :: rest.take taken) (rest.drop taken) := by
  intro taken
  have enough : taken ≤ rest.length := continuationLength_le_length
  have whole : byte :: rest.take taken ++ rest.drop taken = byte :: rest := by
    rw [List.cons_append, List.take_append_drop]
  have length : (rest.take taken).length = taken := List.length_take_of_le enough
  have continues : Continues count low high (rest.take taken) := continues_take
  have least : ∀ longer,
      longer <+: byte :: rest → StartsCharacter longer → longer.length ≤ taken + 1 := by
    intro longer start starts
    exact starts.length_le start asks
  refine ⟨?_, List.cons_ne_nil _ _, Or.inr ?_, ?_⟩
  · intro c start
    rw [whole] at start
    have all := least _ start ⟨c, List.prefix_refl _⟩
    rw [length_utf8EncodeChar start asks] at all
    have most := continues.length_le
    omega
  · exact startsCharacter_cons_iff.mpr ⟨count, low, high, asks, continues⟩
  · rw [whole, List.length_cons, length]
    exact least

/-- The part that the front of the bytes is taken for is read as a character, or it is broken. -/
theorem readsPart_front (byte : UInt8) (rest : List UInt8)
    : ReadsPart (byte :: rest.take (front byte rest).2) (rest.drop (front byte rest).2)
        ((front byte rest).1.getD replacement) := by
  unfold front
  cases asks : leadRange? byte with
  | none => exact .broken (broken_of_nothing asks)
  | some range =>
      obtain ⟨count, low, high⟩ := range
      dsimp only
      have enough : continuationLength count low high rest ≤ rest.length :=
        continuationLength_le_length
      have continues : Continues count low high (rest.take _) := continues_take
      split
      · rename_i whole
        rw [whole] at enough continues
        have length : (rest.take count).length = count := List.length_take_of_le enough
        have spells : Spells byte (rest.take count) _ :=
          ⟨⟨low, high, by rw [length, asks], by rw [length]; exact continues⟩, rfl⟩
        obtain ⟨c, number, spelled⟩ := spells.encodes
        rw [length] at number
        rw [← number, Char.ofNat_toNat, ← spelled]
        exact .character c
      · rename_i missing
        exact .broken (broken_of_missing asks missing)

end Decoding

/-- Decoding reads the bytes part by part. -/
theorem reads_decode (bytes : List UInt8) : Reads bytes (decode bytes).toList := by
  rw [decode, String.toList_ofList]
  fun_induction scan bytes with
  | case1 => exact .done
  | case2 byte rest ih =>
      refine .next ?_ (readsPart_front byte rest) ih
      rw [List.cons_append, List.take_append_drop]

/-- Decoding gives the one reading of the bytes. -/
theorem reads_iff {bytes : List UInt8} {text : String}
    : Reads bytes text.toList ↔ decode bytes = text := by
  constructor
  · intro reads
    exact String.toList_inj.mp ((reads_decode bytes).unique reads)
  · rintro rfl
    exact reads_decode bytes

-----------------------------------------------------------------------------------------
-- Text among other bytes
-----------------------------------------------------------------------------------------

section Texts

variable {bytes more part rest : List UInt8} {text texts : List Char} {c : Char}

/-- A broken part stays one when bytes follow that continue no character. -/
theorem Broken.append (broken : Broken part rest)
    (apart : ∀ byte ∈ more.head?, isContinuation byte = false)
    : Broken part (rest ++ more) := by
  have nonempty : part ++ rest ≠ [] := List.append_ne_nil_of_left_ne_nil broken.nonempty rest
  refine ⟨?_, broken.nonempty, broken.starts, ?_⟩
  · intro c start
    rw [← List.append_assoc] at start
    have starts : StartsCharacter (String.utf8EncodeChar c) := ⟨c, List.prefix_refl _⟩
    exact broken.noCharacter c (starts.inside nonempty apart start)
  · intro longer start starts
    rw [← List.append_assoc] at start
    exact broken.longest longer (starts.inside nonempty apart start) starts

theorem ReadsPart.append (reads : ReadsPart part rest c)
    (apart : ∀ byte ∈ more.head?, isContinuation byte = false)
    : ReadsPart part (rest ++ more) c := by
  cases reads with
  | character => exact .character c
  | broken broken => exact .broken (broken.append apart)

/-- Bytes are read on their own when bytes follow that continue no character. -/
theorem Reads.append (reads : Reads bytes text) (readsToo : Reads more texts)
    (apart : ∀ byte ∈ more.head?, isContinuation byte = false)
    : Reads (bytes ++ more) (text ++ texts) := by
  induction reads with
  | done => exact readsToo
  | next split front _ ih =>
      refine .next ?_ (front.append apart) ih
      rw [split, List.append_assoc]

/-- The bytes of a text are read as that text, whatever follows. -/
theorem Reads.text_append (text : List Char) (reads : Reads more texts)
    : Reads (text.flatMap String.utf8EncodeChar ++ more) (text ++ texts) := by
  induction text with
  | nil => exact reads
  | cons c text ih =>
      refine .next ?_ (.character c) ih
      rw [List.flatMap_cons, List.append_assoc]

end Texts

-----------------------------------------------------------------------------------------
-- Texts as they were written
-----------------------------------------------------------------------------------------

/-- No character begins with a byte that continues one. -/
theorem head_utf8EncodeChar (c : Char) (more : List UInt8)
    : ∀ byte ∈ (String.utf8EncodeChar c ++ more).head?, isContinuation byte = false := by
  obtain ⟨first, following, spelled, ⟨low, high, asks, -⟩, -⟩ := exists_spells c
  rw [spelled]
  rintro byte ⟨⟩
  exact leadRange?_not_continuation asks

theorem toList_loop_eq (bytes : ByteArray) (index : Nat) (seen : List UInt8)
    : ByteArray.toList.loop bytes index seen = seen.reverse ++ bytes.data.toList.drop index := by
  fun_induction ByteArray.toList.loop bytes index seen with
  | case1 index seen inside ih =>
      have within : index < bytes.data.toList.length := by simpa using inside
      have byte : bytes.get! index = bytes.data.toList[index] := by
        rw [Array.getElem_toList]
        exact getElem!_pos bytes.data index inside
      rw [ih, byte, List.reverse_cons, List.append_assoc, List.drop_eq_getElem_cons within]
      rfl
  | case2 index seen outside =>
      rw [List.drop_eq_nil_of_le (by simpa using outside), List.append_nil]

/-- The bytes of a text are those of its characters. -/
theorem encode_eq (text : String) : encode text = text.toList.flatMap String.utf8EncodeChar := by
  have bytes : text.toUTF8 = text.toList.utf8Encode := by
    rw [String.toUTF8_eq_toByteArray, ← String.toByteArray_ofList, String.ofList_toList]
  rw [encode, ByteArray.toList, toList_loop_eq, bytes]
  exact List.toList_data_toByteArray

/-- Text is read back as it was written. -/
theorem decode_encode_append (text : String) (after : List UInt8)
    : decode (encode text ++ after) = text ++ decode after := by
  apply reads_iff.mp
  rw [encode_eq, String.toList_append]
  exact .text_append text.toList (reads_decode after)

/-- Text is read as it was written, whatever bytes stand before and after it. -/
theorem decode_around {text : String} (something : text ≠ "") (before after : List UInt8)
    : decode (before ++ encode text ++ after) = decode before ++ text ++ decode after := by
  rw [List.append_assoc, String.append_assoc, ← decode_encode_append]
  have apart : ∀ byte ∈ (encode text ++ after).head?, isContinuation byte = false := by
    rw [encode_eq]
    cases letters : text.toList with
    | nil => exact absurd (String.toList_eq_nil_iff.mp letters) something
    | cons c letters =>
        rw [List.flatMap_cons, List.append_assoc]
        exact head_utf8EncodeChar c _
  apply reads_iff.mp
  rw [String.toList_append]
  exact (reads_decode before).append (reads_decode _) apart

theorem decode_nil : decode [] = "" := reads_iff.mp .done

/-- Text at the end is read as it was written, whatever bytes stand before it. -/
theorem decode_append_encode {text : String} (something : text ≠ "") (before : List UInt8)
    : decode (before ++ encode text) = decode before ++ text := by
  have whole := decode_around something before []
  rwa [decode_nil, List.append_nil, String.append_empty] at whole

/-- All of a text is read as it was written. -/
theorem decode_encode (text : String) : decode (encode text) = text := by
  have whole := decode_encode_append text []
  rwa [decode_nil, List.append_nil, String.append_empty] at whole

/-- Bytes that spell a character are taken for it, whatever follows. -/
theorem front_of_spells {byte : UInt8} {following : List UInt8} {number : Nat}
    (spells : Spells byte following number) (rest : List UInt8)
    : front byte (following ++ rest) = (some (Char.ofNat number), following.length) := by
  obtain ⟨⟨low, high, asks, continues⟩, number⟩ := spells
  have atLeast := continues.length_le_continuationLength (List.prefix_append following rest)
  have atMost
      : continuationLength following.length low high (following ++ rest) ≤ following.length := by
    have taken : Continues following.length low high ((following ++ rest).take _) := continues_take
    have length := taken.length_le
    rwa [List.length_take_of_le continuationLength_le_length] at length
  rw [front, asks]
  dsimp only
  rw [if_pos (Nat.le_antisymm atMost atLeast), List.take_left, number]

/-- The bytes of a text are well-formed: they are read back strictly, too. -/
theorem decode?_encode (text : String) : decode? (encode text) = some text := by
  have letters (text : List Char) : scan (text.flatMap String.utf8EncodeChar) = text.map some := by
    induction text with
    | nil => rw [List.flatMap_nil, scan, List.map_nil]
    | cons c text ih =>
        obtain ⟨byte, following, spelled, spells⟩ := exists_spells c
        rw [List.flatMap_cons, spelled, List.cons_append, scan, front_of_spells spells,
          Char.ofNat_toNat]
        dsimp only
        rw [List.drop_left, ih, List.map_cons]
  have all (text : List Char) : (text.map some).mapM id = some text := by
    induction text with
    | nil => rfl
    | cons c text ih => simp [ih]
  rw [decode?, encode_eq, letters, all, Option.map_some, String.ofList_toList]

end MutationTesting.Utf8
