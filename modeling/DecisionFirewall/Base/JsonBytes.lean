import DecisionFirewall.Base.JsonRead

/-!
# JSON as Bytes

Canonical texts as the bytes that are stored and sent, and what the order of members means
for them.

- §1 texts as bytes
- §2 the order of members
- §3 a library for texts in ASCII
-/

namespace DecisionFirewall

namespace Json

variable {lib : JsonLibrary}

/-! ## §1 Texts as bytes -/

/-- The characters of canonical texts. -/
def IsPrintable (c : Char) : Prop := 32 ≤ c.toNat ∧ c.toNat ≤ 126

theorem isPrintable_hexDigit {n : Nat} (h : n < 16) : IsPrintable (hexDigit n) := by
  have hall : ∀ n < 16, 32 ≤ (hexDigit n).toNat ∧ (hexDigit n).toNat ≤ 126 := by decide
  exact hall n h

theorem isPrintable_escapeUnit (n : Nat) : ∀ c ∈ escapeUnit n, IsPrintable c := by
  intro c hc
  simp only [escapeUnit, List.mem_cons, List.not_mem_nil, or_false] at hc
  rcases hc with rfl | rfl | rfl | rfl | rfl | rfl
  · exact ⟨by decide, by decide⟩
  · exact ⟨by decide, by decide⟩
  all_goals exact isPrintable_hexDigit (Nat.mod_lt _ (by omega))

theorem isPrintable_escapeChar (c : Char) : ∀ d ∈ escapeChar c, IsPrintable d := by
  unfold escapeChar
  have hshort : ∀ a b : Char, IsPrintable a → IsPrintable b → ∀ d ∈ [a, b], IsPrintable d := by
    intro a b ha hb d hd
    rcases List.mem_pair.mp hd with rfl | rfl
    · exact ha
    · exact hb
  have hslash : IsPrintable '\\' := ⟨by decide, by decide⟩
  split_ifs with h₁ h₂ h₃ h₄ h₅ h₆ h₇ h₈ h₉
  · exact hshort _ _ hslash ⟨by decide, by decide⟩
  · exact hshort _ _ hslash hslash
  · exact hshort _ _ hslash ⟨by decide, by decide⟩
  · exact hshort _ _ hslash ⟨by decide, by decide⟩
  · exact hshort _ _ hslash ⟨by decide, by decide⟩
  · exact hshort _ _ hslash ⟨by decide, by decide⟩
  · exact hshort _ _ hslash ⟨by decide, by decide⟩
  · intro d hd
    rw [List.mem_singleton.mp hd]
    exact h₈
  · exact isPrintable_escapeUnit _
  · intro d hd
    rcases List.mem_append.mp hd with hd | hd
    · exact isPrintable_escapeUnit _ d hd
    · exact isPrintable_escapeUnit _ d hd

theorem isPrintable_renderString (s : String) : ∀ c ∈ renderString s, IsPrintable c := by
  intro c hc
  simp only [renderString, List.cons_append, List.mem_cons, List.mem_append, List.mem_flatMap,
    List.not_mem_nil, or_false] at hc
  rcases hc with rfl | ⟨d, -, hd⟩ | rfl
  · exact ⟨by decide, by decide⟩
  · exact isPrintable_escapeChar d c hd
  · exact ⟨by decide, by decide⟩

theorem isPrintable_joinComma {parts : List (List Char)}
    (h : ∀ p ∈ parts, ∀ c ∈ p, IsPrintable c) : ∀ c ∈ joinComma parts, IsPrintable c := by
  induction parts with
  | nil => simp [joinComma]
  | cons x rest ih =>
    have ih := ih fun p hp => h p (by simp [hp])
    cases rest with
    | nil => simpa [joinComma] using h x (by simp)
    | cons y rest =>
      intro c hc
      simp only [joinComma, List.mem_append, List.mem_cons] at hc
      rcases hc with hc | rfl | hc
      · exact h x (by simp) c hc
      · exact ⟨by decide, by decide⟩
      · exact ih c hc

theorem isPrintable_word {v : Json} (hword : v.IsWord) (h : v.NumbersOk) :
    ∀ c ∈ v.text, IsPrintable c := by
  intro c hc
  have hall : wordChars.all (fun c => 32 ≤ c.toNat && c.toNat ≤ 126) = true := by rfl
  have hmem := List.all_eq_true.mp hall c (text_mem_wordChars hword h c hc)
  simpa [IsPrintable] using hmem

mutual

/-- The text of a value is printable ASCII. -/
theorem isPrintable_text : (v : Json) → v.NumbersOk → ∀ c ∈ v.text, IsPrintable c
  | .null, h => isPrintable_word (v := .null) trivial h
  | .bool _, h => isPrintable_word (v := .bool _) trivial h
  | .int _, h => isPrintable_word (v := .int _) trivial h
  | .float _, h => isPrintable_word (v := .float _) trivial h
  | .str s, _ => isPrintable_renderString s
  | .arr xs, h => by
    have hitems := isPrintable_joinComma (isPrintable_textItems xs h)
    intro c hc
    simp only [text, List.cons_append, List.mem_cons, List.mem_append, List.not_mem_nil,
      or_false] at hc
    rcases hc with rfl | hc | rfl
    · exact ⟨by decide, by decide⟩
    · exact hitems c hc
    · exact ⟨by decide, by decide⟩
  | .obj fields, h => by
    have hfields := isPrintable_joinComma (isPrintable_textFields fields h)
    intro c hc
    simp only [text, List.cons_append, List.mem_cons, List.mem_append, List.not_mem_nil,
      or_false] at hc
    rcases hc with rfl | hc | rfl
    · exact ⟨by decide, by decide⟩
    · exact hfields c hc
    · exact ⟨by decide, by decide⟩

theorem isPrintable_textItems : (xs : List Json) → NumbersOkItems xs →
    ∀ p ∈ textItems xs, ∀ c ∈ p, IsPrintable c
  | [], _ => by simp [textItems]
  | x :: xs, h => by
    intro p hp
    rcases List.mem_cons.mp hp with rfl | hp
    · exact isPrintable_text x h.1
    · exact isPrintable_textItems xs h.2 p hp

theorem isPrintable_textFields : (fields : List (String × Json)) → NumbersOkFields fields →
    ∀ p ∈ textFields fields, ∀ c ∈ p, IsPrintable c
  | [], _ => by simp [textFields]
  | (k, v) :: fields, h => by
    intro p hp
    rcases List.mem_cons.mp hp with rfl | hp
    · intro c hc
      rcases List.mem_append.mp hc with hc | hc
      · exact isPrintable_renderString k c hc
      · rcases List.mem_cons.mp hc with rfl | hc
        · exact ⟨by decide, by decide⟩
        · exact isPrintable_text v h.1 c hc
    · exact isPrintable_textFields fields h.2 p hp

end

/-- `text.encode("utf-8")` of a text in ASCII. -/
def encodeAscii (cs : List Char) : List UInt8 := cs.map fun c => c.toNat.toUInt8

@[simp] theorem length_encodeAscii (cs : List Char) : (encodeAscii cs).length = cs.length :=
  List.length_map _

/-- No byte of a canonical text ends a line. -/
theorem encodeAscii_ne {cs : List Char} (h : ∀ c ∈ cs, IsPrintable c) :
    ∀ b ∈ encodeAscii cs, b ≠ 10 ∧ b ≠ 13 := by
  intro b hb
  obtain ⟨c, hc, rfl⟩ := List.mem_map.mp hb
  obtain ⟨hlow, hhigh⟩ := h c hc
  have hvalue : c.toNat.toUInt8.toNat = c.toNat := by
    rw [Nat.toUInt8, UInt8.toNat_ofNat']
    omega
  constructor
  · intro heq
    rw [heq] at hvalue
    simp at hvalue
    omega
  · intro heq
    rw [heq] at hvalue
    simp at hvalue
    omega

/-- The bytes of an object are read back. -/
theorem strictJsonLoadsBytes_text {fields : List (String × Json)}
    (h : (Json.obj fields).Readable lib) :
    strictJsonLoadsBytes lib (encodeAscii (Json.obj fields).text) = some (.obj fields) := by
  have hprintable := isPrintable_text _ h.numbersOk
  have hdecode := lib.decode_ascii (Json.obj fields).text.tail fun c hc => by
    obtain ⟨hlow, hhigh⟩ := hprintable c (List.mem_of_mem_tail hc)
    exact ⟨by omega, by omega⟩
  have hhead : '{' :: (Json.obj fields).text.tail = (Json.obj fields).text := rfl
  rw [hhead] at hdecode
  rw [strictJsonLoadsBytes, encodeAscii, hdecode, Option.bind_some, strictJsonLoads_text h]

/-! ## §2 The order of members -/

/-- One member has the name. -/
theorem lookup_eq_some_iff_mem {fields : List (String × Json)}
    (h : (fields.map Prod.fst).Nodup) {name : String} {v : Json} :
    fields.lookup name = some v ↔ (name, v) ∈ fields := by
  induction fields with
  | nil => simp
  | cons f fields ih =>
    obtain ⟨k, w⟩ := f
    obtain ⟨hnotMem, hnodup⟩ := List.nodup_cons.mp h
    by_cases hk : name = k
    · subst hk
      rw [List.lookup_cons_self, Option.some.injEq, List.mem_cons, Prod.mk.injEq]
      constructor
      · rintro rfl
        exact .inl ⟨rfl, rfl⟩
      · rintro (⟨-, rfl⟩ | hmem)
        · rfl
        · exact absurd (List.mem_map.mpr ⟨_, hmem, rfl⟩) hnotMem
    · rw [List.lookup_cons, beq_eq_false_iff_ne.mpr hk, List.mem_cons, Prod.mk.injEq]
      simp only [hk, false_and, false_or]
      exact ih hnodup

/-- A lookup does not see the order of the members. -/
theorem lookup_eq_of_perm {fields fields' : List (String × Json)} (hperm : fields.Perm fields')
    (h : (fields.map Prod.fst).Nodup) (name : String) :
    fields.lookup name = fields'.lookup name := by
  have h' : (fields'.map Prod.fst).Nodup := (hperm.map Prod.fst).nodup_iff.mp h
  apply Option.ext
  intro v
  rw [lookup_eq_some_iff_mem h, lookup_eq_some_iff_mem h', hperm.mem_iff]

theorem pairwise_mergeSort_fields (fields : List (String × Json)) :
    (fields.mergeSort fun a b => decide (a.1 ≤ b.1)).Pairwise fun a b => a.1 ≤ b.1 := by
  have h : (fields.mergeSort fun a b => decide (a.1 ≤ b.1)).Pairwise
      fun a b => decide (a.1 ≤ b.1) = true := List.pairwise_mergeSort
    (fun a b c hab hbc => decide_eq_true ((of_decide_eq_true hab).trans (of_decide_eq_true hbc)))
    (fun a b => by simpa using le_total a.1 b.1) fields
  exact h.imp of_decide_eq_true

/-- Nor does the sorted value. -/
theorem sorted_eq_of_perm {fields fields' : List (String × Json)} (hperm : fields.Perm fields')
    (h : (fields.map Prod.fst).Nodup) : (Json.obj fields).sorted = (Json.obj fields').sorted := by
  have hkeys : ((sortedFields fields).map Prod.fst).Nodup := by
    rw [sortedFields_eq_map, List.map_map]
    exact h
  have hsorted : (sortedFields fields).Perm (sortedFields fields') := by
    rw [sortedFields_eq_map, sortedFields_eq_map]
    exact hperm.map _
  have hmerged := (List.mergeSort_perm (sortedFields fields) fun a b =>
      decide (a.1 ≤ b.1)).trans
    (hsorted.trans (List.mergeSort_perm (sortedFields fields') fun a b =>
      decide (a.1 ≤ b.1)).symm)
  simp only [sorted]
  congr 1
  refine hmerged.eq_of_pairwise ?_ (pairwise_mergeSort_fields _) (pairwise_mergeSort_fields _)
  -- two members with one name are one member
  intro a b ha hb hab hba
  have ha' : a ∈ sortedFields fields := List.mem_mergeSort.mp ha
  have hb' : b ∈ sortedFields fields := hsorted.mem_iff.mpr (List.mem_mergeSort.mp hb)
  exact List.inj_on_of_nodup_map hkeys ha' hb' (le_antisymm hab hba)

theorem render_eq_of_perm {fields fields' : List (String × Json)} (hperm : fields.Perm fields')
    (h : (fields.map Prod.fst).Nodup) : (Json.obj fields).render = (Json.obj fields').render := by
  rw [render_eq_text, render_eq_text, sorted_eq_of_perm hperm h]

theorem canonicalJson_eq_of_perm {fields fields' : List (String × Json)}
    (hperm : fields.Perm fields') (h : (fields.map Prod.fst).Nodup) :
    canonicalJson (.obj fields) = canonicalJson (.obj fields') := by
  rw [canonicalJson, canonicalJson, render_eq_of_perm hperm h]

mutual

theorem sorted_sorted : (v : Json) → v.sorted.sorted = v.sorted
  | .null => rfl
  | .bool _ => rfl
  | .int _ => rfl
  | .float _ => rfl
  | .str _ => rfl
  | .arr xs => by simp only [sorted, sortedItems_sortedItems xs]
  | .obj fields => by
    have hfields := sortedFields_sortedFields fields
    have hvalues : ∀ f ∈ sortedFields fields, (f.1, f.2.sorted) = f := by
      have hmap := hfields
      rw [sortedFields_eq_map (sortedFields fields)] at hmap
      intro f hf
      exact List.map_inj_left.mp (hmap.trans (List.map_id _).symm) f hf
    have hmerged : sortedFields ((sortedFields fields).mergeSort fun a b => decide (a.1 ≤ b.1)) =
        (sortedFields fields).mergeSort fun a b => decide (a.1 ≤ b.1) := by
      rw [sortedFields_eq_map]
      exact (List.map_congr_left fun f hf => hvalues f (List.mem_mergeSort.mp hf)).trans
        (List.map_id _)
    simp only [sorted]
    rw [hmerged, List.mergeSort_of_pairwise]
    exact (pairwise_mergeSort_fields _).imp decide_eq_true

theorem sortedItems_sortedItems : (xs : List Json) → sortedItems (sortedItems xs) = sortedItems xs
  | [] => rfl
  | x :: xs => by simp only [sortedItems, sorted_sorted x, sortedItems_sortedItems xs]

theorem sortedFields_sortedFields : (fields : List (String × Json)) →
    sortedFields (sortedFields fields) = sortedFields fields
  | [] => rfl
  | (_, v) :: fields => by
    simp only [sortedFields, sorted_sorted v, sortedFields_sortedFields fields]

end

/-- What is read back has the text that was written. -/
theorem canonicalJson_sorted (v : Json) : canonicalJson v.sorted = canonicalJson v := by
  rw [canonicalJson, canonicalJson, render_eq_text, render_eq_text, sorted_sorted]

end Json

/-! ## §3 A library for texts in ASCII -/

/-- Reads bytes in ASCII, and numbers that are spelled as `repr` spells them. -/
def asciiLibrary : JsonLibrary where
  decode raw := if raw.all (· < 128) then some (String.ofList (raw.map fun b => Char.ofNat b.toNat))
    else none
  floatRepr s := if isFloatLiteral s.toList = true ∧ 'E' ∉ s.toList then some s else none
  floatInteger _ := none
  decode_ascii cs h := by
    -- every character is its own byte
    have hbyte : ∀ c ∈ '{' :: cs, c.toNat.toUInt8.toNat = c.toNat ∧ c.toNat < 128 := by
      intro c hc
      have hlow : c.toNat < 128 := by
        rcases List.mem_cons.mp hc with rfl | hc
        · decide
        · exact (h c hc).2
      refine ⟨?_, hlow⟩
      rw [Nat.toUInt8, UInt8.toNat_ofNat']
      omega
    have hall : (('{' :: cs).map fun c => c.toNat.toUInt8).all (· < 128) = true := by
      rw [List.all_map, List.all_eq_true]
      intro c hc
      obtain ⟨hvalue, hlow⟩ := hbyte c hc
      simpa [UInt8.lt_iff_toNat_lt, hvalue] using hlow
    rw [if_pos hall, List.map_map]
    congr 2
    refine (List.map_congr_left fun c hc => ?_).trans (List.map_id _)
    simp only [Function.comp_apply, (hbyte c hc).1, Char.ofNat_toNat, id]
  floatRepr_repr s r h := by
    obtain ⟨-, hr⟩ := Option.ite_none_right_eq_some.mp h
    cases hr
    exact h
  floatRepr_literal s r h := by
    obtain ⟨hs, hr⟩ := Option.ite_none_right_eq_some.mp h
    cases hr
    exact hs

end DecisionFirewall
