import Conveyor.Uri.Percent

/-!
# Percent-encoding of paths

A location writes each character of a path as its UTF-8 bytes, and each byte the path set holds as `%` and two
upper-case hexadecimal digits (`encodeText .path`). The characters it writes as themselves are the printable
ASCII characters outside that set (`pathSafe`). This module proves what the path readers and the round trip of
locations rest on:

* everything written is `pathSafe`, and a `pathSafe` text is written as itself, so writing is idempotent
  (`encodeText_encodeText`) and leaves a text alone exactly when it is `pathSafe` (`encodeText_eq_self_iff`);
* a slash is written as itself and is written only for a slash, so writing commutes with splitting at slashes
  (`splitOn_encodeText`).
-/

namespace Conveyor.Uri

/-! ## UTF-8 bytes of a character -/

theorem byteArray_toList_loop (bs : ByteArray) (i : Nat) (r : List UInt8) :
    ByteArray.toList.loop bs i r = r.reverse ++ bs.data.toList.drop i := by
  obtain ⟨⟨l⟩⟩ := bs
  fun_induction ByteArray.toList.loop ⟨⟨l⟩⟩ i r with
  | case1 i r h ih =>
    rw [ih]
    have hi : i < l.length := h
    rw [List.drop_eq_getElem_cons hi]
    simp [ByteArray.get!, hi]
  | case2 i r h =>
    have hi : l.length ≤ i := Nat.le_of_not_lt h
    simp [List.drop_eq_nil_of_le hi]

theorem utf8_eq_utf8EncodeChar (c : Char) : utf8 c = String.utf8EncodeChar c := by
  simp [utf8, String.toByteArray_singleton, List.utf8Encode_singleton, ByteArray.toList, byteArray_toList_loop]

/-- An ASCII character is its own single byte. -/
theorem utf8_of_lt {c : Char} (h : c.toNat < 0x80) : utf8 c = [UInt8.ofNat c.toNat] := by
  rw [utf8_eq_utf8EncodeChar, String.utf8EncodeChar]
  rw [if_pos (by simp; omega)]
  rfl

/-- Every byte of a character beyond ASCII has its high bit set; one case per length of the encoding. -/
theorem le_toNat_of_mem_utf8 {c : Char} (h : 0x80 ≤ c.toNat) {b : UInt8} (hb : b ∈ utf8 c) : 0x80 ≤ b.toNat := by
  rw [utf8_eq_utf8EncodeChar, String.utf8EncodeChar] at hb
  simp only [Char.toNat_val] at hb
  split at hb
  · omega
  split at hb
  · simp only [List.mem_cons, List.not_mem_nil, or_false] at hb
    rcases hb with rfl | rfl <;> simp <;> omega
  split at hb
  · simp only [List.mem_cons, List.not_mem_nil, or_false] at hb
    rcases hb with rfl | rfl | rfl <;> simp <;> omega
  · simp only [List.mem_cons, List.not_mem_nil, or_false] at hb
    rcases hb with rfl | rfl | rfl | rfl <;> simp <;> omega

theorem toNat_charOfNat {n : Nat} (h : n < 0xd800) : (Char.ofNat n).toNat = n := by
  rw [Char.ofNat, dif_pos (Or.inl h)]
  rfl

/-! ## Characters a path writes as themselves -/

/-- A character a path writes as itself: printable ASCII outside the path set. -/
def pathSafe (c : Char) : Bool := !EncodeSet.path.holds c.toNat

theorem gt_of_pathSafe {c : Char} (h : pathSafe c = true) : 0x20 < c.toNat := by
  simp [pathSafe, EncodeSet.holds, EncodeSet.extra] at h
  omega

theorem hexUpper_pathSafe {n : Nat} (h : n < 16) : pathSafe (hexUpper n) = true := by
  have : ∀ n < 16, pathSafe (hexUpper n) = true := by decide
  exact this n h

/-- What one byte is written as: the character of that byte, or `%` and a hexadecimal digit. -/
theorem mem_encodeByte {set : EncodeSet} {b : UInt8} {d : Char} (h : d ∈ encodeByte set b) :
    (set.holds b.toNat = false ∧ d = Char.ofNat b.toNat) ∨
      (set.holds b.toNat = true ∧ (d = '%' ∨ ∃ n < 16, d = hexUpper n)) := by
  unfold encodeByte at h
  split at h
  · rename_i hb
    simp only [List.mem_cons, List.not_mem_nil, or_false] at h
    refine .inr ⟨hb, ?_⟩
    have hb256 : b.toNat < 256 := b.toNat_lt
    rcases h with rfl | rfl | rfl
    · exact .inl rfl
    · exact .inr ⟨_, by omega, rfl⟩
    · exact .inr ⟨_, by omega, rfl⟩
  · rename_i hb
    simp only [List.mem_cons, List.not_mem_nil, or_false] at h
    exact .inl ⟨by simpa using hb, h⟩

/-- What a set that holds every byte the path set holds writes, a path writes as itself. -/
theorem pathSafe_of_mem_encodeByte {set : EncodeSet} (hset : ∀ n < 0x7f, set.holds n = false → EncodeSet.path.holds n = false)
    {b : UInt8} {d : Char} (h : d ∈ encodeByte set b) : pathSafe d = true := by
  rcases mem_encodeByte h with ⟨hb, rfl⟩ | ⟨-, rfl | ⟨n, hn, rfl⟩⟩
  · have hlt : b.toNat < 0x7f := by simp [EncodeSet.holds] at hb; omega
    simp [pathSafe, toNat_charOfNat (by omega : b.toNat < 0xd800), hset _ hlt hb]
  · decide
  · exact hexUpper_pathSafe hn

theorem pathSafe_of_mem_encodeText_of {set : EncodeSet}
    (hset : ∀ n < 0x7f, set.holds n = false → EncodeSet.path.holds n = false) {cs : List Char} {d : Char}
    (h : d ∈ encodeText set cs) : pathSafe d = true := by
  obtain ⟨c, -, hc⟩ := List.mem_flatMap.1 h
  obtain ⟨b, -, hb⟩ := List.mem_flatMap.1 hc
  exact pathSafe_of_mem_encodeByte hset hb

/-- Everything a path writes is a character it writes as itself. -/
theorem pathSafe_of_mem_encodeText {cs : List Char} {d : Char} (h : d ∈ encodeText .path cs) :
    pathSafe d = true :=
  pathSafe_of_mem_encodeText_of (fun _ _ h => h) h

theorem encodeChar_of_not_holds {set : EncodeSet} {c : Char} (h : set.holds c.toNat = false) :
    encodeChar set c = [c] := by
  have hlt : c.toNat < 0x7f := by simp [EncodeSet.holds] at h; omega
  have hb : (UInt8.ofNat c.toNat).toNat = c.toNat := UInt8.toNat_ofNat_of_lt' (by unfold UInt8.size; omega)
  simp only [encodeChar, encodeBytes, utf8_of_lt (by omega : c.toNat < 0x80), List.flatMap_cons, List.flatMap_nil,
    List.append_nil, encodeByte, hb, h]
  simp

theorem encodeChar_of_pathSafe {c : Char} (h : pathSafe c = true) : encodeChar .path c = [c] :=
  encodeChar_of_not_holds (by simpa [pathSafe] using h)

/-- A text whose bytes a set does not hold is written as itself. -/
theorem encodeText_of_not_holds {set : EncodeSet} {cs : List Char} (h : ∀ c ∈ cs, set.holds c.toNat = false) :
    encodeText set cs = cs := by
  induction cs with
  | nil => rfl
  | cons c cs ih =>
    simp only [List.mem_cons, forall_eq_or_imp] at h
    simp only [encodeText, List.flatMap_cons] at ih ⊢
    rw [encodeChar_of_not_holds h.1, ih h.2]
    rfl

theorem encodeText_of_pathSafe {cs : List Char} (h : ∀ c ∈ cs, pathSafe c = true) : encodeText .path cs = cs :=
  encodeText_of_not_holds fun c hc => by simpa [pathSafe] using h c hc

/-- Writing a path twice writes it once. -/
theorem encodeText_encodeText (cs : List Char) : encodeText .path (encodeText .path cs) = encodeText .path cs :=
  encodeText_of_pathSafe fun _ => pathSafe_of_mem_encodeText

/-- A path is written as itself exactly when each of its characters is one a path writes as itself. -/
theorem encodeText_eq_self_iff {cs : List Char} : encodeText .path cs = cs ↔ ∀ c ∈ cs, pathSafe c = true :=
  ⟨fun h _ hc => pathSafe_of_mem_encodeText (h ▸ hc), encodeText_of_pathSafe⟩

theorem encodeText_append (set : EncodeSet) (a b : List Char) :
    encodeText set (a ++ b) = encodeText set a ++ encodeText set b :=
  List.flatMap_append

/-! ## Slashes -/

/-- Only a slash is written with a slash in it. -/
theorem eq_slash_of_mem_encodeChar {c : Char} (h : '/' ∈ encodeChar .path c) : c = '/' := by
  obtain ⟨b, hb, hd⟩ := List.mem_flatMap.1 h
  rcases mem_encodeByte hd with ⟨hn, he⟩ | ⟨-, he | ⟨n, hn, he⟩⟩
  · have hlt : b.toNat < 0x7f := by simp [EncodeSet.holds] at hn; omega
    have h2f : b.toNat = 0x2f := by
      have := congrArg Char.toNat he
      rw [toNat_charOfNat (n := b.toNat) (by omega)] at this
      exact this.symm
    by_cases hc : c.toNat < 0x80
    · rw [utf8_of_lt hc, List.mem_singleton] at hb
      subst hb
      rw [UInt8.toNat_ofNat_of_lt' (by unfold UInt8.size; omega)] at h2f
      exact Char.toNat_inj.1 h2f
    · have := le_toNat_of_mem_utf8 (by omega) hb
      omega
  · cases he
  · have : ∀ n < 16, hexUpper n ≠ '/' := by decide
    exact absurd he.symm (this n hn)

theorem encodeChar_slash : encodeChar .path '/' = ['/'] := encodeChar_of_pathSafe (by decide)

theorem encodeText_cons_slash (cs : List Char) : encodeText .path ('/' :: cs) = '/' :: encodeText .path cs := by
  simp [encodeText, encodeChar_slash]

theorem encodeText_slash : encodeText .path ['/'] = ['/'] := encodeText_cons_slash []

theorem slash_not_mem_encodeText {seg : List Char} (h : '/' ∉ seg) : '/' ∉ encodeText .path seg := fun hm => by
  obtain ⟨c, hc, hs⟩ := List.mem_flatMap.1 hm
  exact h (eq_slash_of_mem_encodeChar hs ▸ hc)

theorem not_mem_of_mem_splitOn {a : Char} : ∀ {l seg : List Char}, seg ∈ l.splitOn a → a ∉ seg
  | [], seg, h => by
    rw [List.splitOn_nil, List.mem_singleton] at h
    subst h
    exact List.not_mem_nil
  | x :: xs, seg, h => by
    rw [List.splitOn_cons_eq_if_modifyHead] at h
    split at h
    · rcases List.mem_cons.1 h with rfl | h
      · exact List.not_mem_nil
      · exact not_mem_of_mem_splitOn h
    · rename_i hx
      obtain ⟨hd, tl, he⟩ := List.exists_cons_of_ne_nil (List.splitOn_ne_nil a xs)
      rw [he, List.modifyHead_cons] at h
      rcases List.mem_cons.1 h with rfl | h
      · have hd' : a ∉ hd := not_mem_of_mem_splitOn (l := xs) (by rw [he]; exact List.mem_cons_self)
        simp only [List.mem_cons, not_or]
        exact ⟨fun e => hx (by rw [e]; exact beq_self_eq_true x), hd'⟩
      · exact not_mem_of_mem_splitOn (l := xs) (by rw [he]; exact List.mem_cons_of_mem _ h)

theorem length_splitOn_le {a : Char} : ∀ l : List Char, (l.splitOn a).length ≤ l.length + 1
  | [] => by simp [List.splitOn_nil]
  | x :: xs => by
    have ih := length_splitOn_le (a := a) xs
    rw [List.splitOn_cons_eq_if_modifyHead]
    split
    · simp only [List.length_cons]
      omega
    · simp only [List.length_modifyHead, List.length_cons]
      omega

theorem mem_intercalate_slash {c : Char} : ∀ {segs : List (List Char)}, c ∈ ['/'].intercalate segs →
    c = '/' ∨ ∃ seg ∈ segs, c ∈ seg
  | [], h => by simp at h
  | [s], h => .inr ⟨s, List.mem_singleton_self s, by simpa using h⟩
  | s :: t :: u, h => by
    rw [List.intercalate_cons_cons] at h
    simp only [List.mem_append, List.mem_singleton] at h
    rcases h with (h | h) | h
    · exact .inr ⟨s, List.mem_cons_self, h⟩
    · exact .inl h
    · rcases mem_intercalate_slash h with h | ⟨seg, hseg, hc⟩
      · exact .inl h
      · exact .inr ⟨seg, List.mem_cons_of_mem _ hseg, hc⟩

/-- What holds of a slash and of every character of some names holds of every character of the path they make. -/
theorem forall_mem_intercalate_slash {p : Char → Prop} {segs : List (List Char)} (hs : p '/')
    (h : ∀ seg ∈ segs, ∀ c ∈ seg, p c) : ∀ c ∈ ['/'].intercalate segs, p c := fun c hc => by
  rcases mem_intercalate_slash hc with rfl | ⟨seg, hseg, hc⟩
  · exact hs
  · exact h seg hseg c hc

theorem mem_of_mem_intercalate : ∀ {segs : List (List Char)} {seg : List Char} {c : Char}, seg ∈ segs → c ∈ seg →
    c ∈ ['/'].intercalate segs
  | [], _, _, h, _ => by simp at h
  | [s], seg, c, h, hc => by
    rw [List.mem_singleton] at h
    subst h
    simpa using hc
  | s :: t :: u, seg, c, h, hc => by
    rw [List.intercalate_cons_cons]
    rcases List.mem_cons.1 h with rfl | h
    · exact List.mem_append_left _ (List.mem_append_left _ hc)
    · exact List.mem_append_right _ (mem_of_mem_intercalate h hc)

theorem mem_of_mem_splitOn {l seg : List Char} {c : Char} (h : seg ∈ l.splitOn '/') (hc : c ∈ seg) : c ∈ l := by
  have hjoin : ['/'].intercalate (l.splitOn '/') = l := List.intercalate_splitOn '/'
  rw [← hjoin]
  exact mem_of_mem_intercalate h hc

theorem encodeText_intercalate : ∀ segs : List (List Char),
    encodeText .path (['/'].intercalate segs) = ['/'].intercalate (segs.map (encodeText .path))
  | [] => rfl
  | [s] => by simp
  | s :: t :: u => by
    rw [List.intercalate_cons_cons, List.map_cons, List.map_cons, List.intercalate_cons_cons, encodeText_append,
      encodeText_append, encodeText_slash, ← List.map_cons, ← encodeText_intercalate (t :: u)]

/-- The names of a written path are the written names of the path. -/
theorem splitOn_encodeText (cs : List Char) :
    (encodeText .path cs).splitOn '/' = (cs.splitOn '/').map (encodeText .path) := by
  rw [show encodeText .path cs = encodeText .path (['/'].intercalate (cs.splitOn '/')) by
    rw [List.intercalate_splitOn], encodeText_intercalate]
  refine List.splitOn_intercalate '/' ?_ (by simp)
  intro l hl
  obtain ⟨seg, hseg, rfl⟩ := List.mem_map.1 hl
  exact slash_not_mem_encodeText (not_mem_of_mem_splitOn hseg)

/-! ## What a set writes -/

/-- Every character is written as something. -/
theorem encodeChar_ne_nil (set : EncodeSet) (c : Char) : encodeChar set c ≠ [] := by
  have hutf : utf8 c ≠ [] := by
    rw [utf8_eq_utf8EncodeChar]
    exact String.utf8EncodeChar_ne_nil
  obtain ⟨b, bs, hb⟩ := List.exists_cons_of_ne_nil hutf
  simp only [encodeChar, encodeBytes, hb, List.flatMap_cons]
  unfold encodeByte
  split <;> simp

theorem encodeText_eq_nil {set : EncodeSet} {cs : List Char} (h : encodeText set cs = []) : cs = [] := by
  cases cs with
  | nil => rfl
  | cons c cs => simp [encodeText, encodeChar_ne_nil] at h

/-- A character a set does not hold is written as itself, and one it holds as `%`, the two digits of a byte the
set holds, and more. -/
theorem encodeChar_cases (set : EncodeSet) (c : Char) :
    (set.holds c.toNat = false ∧ encodeChar set c = [c]) ∨
      (set.holds c.toNat = true ∧ ∃ b rest, b < 256 ∧ set.holds b = true ∧
        encodeChar set c = '%' :: hexUpper (b / 16) :: hexUpper (b % 16) :: rest) := by
  by_cases hc : c.toNat < 0x80
  · have hb : (UInt8.ofNat c.toNat).toNat = c.toNat := UInt8.toNat_ofNat_of_lt' (by unfold UInt8.size; omega)
    cases hh : set.holds c.toNat
    · exact .inl ⟨rfl, encodeChar_of_not_holds hh⟩
    · refine .inr ⟨rfl, c.toNat, [], by omega, hh, ?_⟩
      simp [encodeChar, encodeBytes, utf8_of_lt hc, encodeByte, hb, hh]
  · obtain ⟨b, bs, hbs⟩ := List.exists_cons_of_ne_nil (by rw [utf8_eq_utf8EncodeChar]; exact String.utf8EncodeChar_ne_nil :
      utf8 c ≠ [])
    have hb : 0x80 ≤ b.toNat := le_toNat_of_mem_utf8 (show 0x80 ≤ c.toNat by omega) (by rw [hbs]; exact List.mem_cons_self)
    have hheld : set.holds b.toNat = true := by simp [EncodeSet.holds]; omega
    have hcheld : set.holds c.toNat = true := by simp [EncodeSet.holds]; omega
    refine .inr ⟨hcheld, b.toNat, encodeBytes set bs, b.toNat_lt, hheld, ?_⟩
    simp [encodeChar, encodeBytes, hbs, encodeByte, hheld]

/-- A character written with something that is neither `%` nor a hexadecimal digit is written as itself. -/
theorem eq_of_mem_encodeChar {set : EncodeSet} {c d : Char} (hd : d ≠ '%' ∧ ∀ n < 16, hexUpper n ≠ d)
    (h : d ∈ encodeChar set c) : set.holds c.toNat = false ∧ d = c := by
  obtain ⟨b, hb, hdb⟩ := List.mem_flatMap.1 h
  rcases mem_encodeByte hdb with ⟨hn, he⟩ | ⟨-, he | ⟨n, hn, he⟩⟩
  · have hlt : b.toNat < 0x7f := by simp [EncodeSet.holds] at hn; omega
    by_cases hc : c.toNat < 0x80
    · rw [utf8_of_lt hc, List.mem_singleton] at hb
      subst hb
      have hbc : (UInt8.ofNat c.toNat).toNat = c.toNat := UInt8.toNat_ofNat_of_lt' (by unfold UInt8.size; omega)
      rw [hbc] at hn he
      exact ⟨hn, he.trans (Char.ofNat_toNat c)⟩
    · have := le_toNat_of_mem_utf8 (by omega) hb
      omega
  · exact absurd he hd.1
  · exact absurd he.symm (hd.2 n hn)

/-- A character that is neither `%` nor a hexadecimal digit and that a set holds is never written by it. -/
theorem not_mem_encodeText_of_holds {set : EncodeSet} {d : Char} (hd : d ≠ '%' ∧ ∀ n < 16, hexUpper n ≠ d)
    (hheld : set.holds d.toNat = true) (cs : List Char) : d ∉ encodeText set cs := fun hm => by
  obtain ⟨c, -, hc⟩ := List.mem_flatMap.1 hm
  obtain ⟨hh, rfl⟩ := eq_of_mem_encodeChar hd hc
  rw [hheld] at hh
  cases hh

theorem length_le_encodeText (set : EncodeSet) (cs : List Char) : cs.length ≤ (encodeText set cs).length := by
  induction cs with
  | nil => simp [encodeText]
  | cons c cs ih =>
    have hc := List.length_pos_iff.2 (encodeChar_ne_nil set c)
    simp only [encodeText, List.flatMap_cons, List.length_append, List.length_cons] at ih ⊢
    omega

/-- A text a set writes as itself holds no character the set holds: a character it holds is written longer. -/
theorem not_holds_of_encodeText_eq {set : EncodeSet} :
    ∀ {cs : List Char}, encodeText set cs = cs → ∀ c ∈ cs, set.holds c.toNat = false
  | [], _ => by simp
  | c :: cs, h => by
    simp only [encodeText, List.flatMap_cons] at h
    rcases encodeChar_cases set c with ⟨hh, he⟩ | ⟨-, b, rest, -, -, he⟩
    · rw [he, List.singleton_append, List.cons.injEq] at h
      intro d hd
      rcases List.mem_cons.1 hd with rfl | hd
      · exact hh
      · exact not_holds_of_encodeText_eq h.2 d hd
    · have hlen := congrArg List.length h
      have hle := length_le_encodeText set cs
      rw [he] at hlen
      simp only [encodeText, List.length_append, List.length_cons] at hlen hle
      omega

end Conveyor.Uri
