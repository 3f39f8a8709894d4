import DecisionFirewall.Lib.JsonDecoder

/-!
# Counting Brackets

A scanner that counts the brackets of a text outside its strings, up to a limit, without
decoding anything. While it finds nothing, a decoder has no more containers open than the
limit (`opened_le`); on a valid text it finds something exactly where the text is nested
deeper (`exceeds_iff`).

- §1 the scanner
- §2 the scanner beside a decoder
- §3 the scanner on a valid text
-/

namespace DecisionFirewall.Lib.Nesting

open JsonDecoder

/-! ## §1 The scanner -/

/-- More than `limit` brackets are open somewhere. -/
def exceeds (limit depth : Nat) (inString escaped : Bool) : List Char → Bool
  | [] => false
  | c :: text =>
    if inString then
      if escaped then exceeds limit depth true false text
      else if c = '\\' then exceeds limit depth true true text
      else exceeds limit depth (c != '"') false text
    else if c = '"' then exceeds limit depth true false text
    else if c = '[' ∨ c = '{' then
      if limit < depth + 1 then true else exceeds limit (depth + 1) false false text
    else if c = ']' ∨ c = '}' then exceeds limit (depth - 1) false false text
    else exceeds limit depth false false text

section Steps

variable {limit depth : Nat} {text : List Char} {c : Char}

attribute [local simp] exceeds

theorem exceeds_escaped :
    exceeds limit depth true true (c :: text) = exceeds limit depth true false text := by
  simp

theorem exceeds_backslash :
    exceeds limit depth true false ('\\' :: text) = exceeds limit depth true true text := by
  simp

theorem exceeds_endString :
    exceeds limit depth true false ('"' :: text) = exceeds limit depth false false text := by
  simp

theorem exceeds_inString (hquote : c ≠ '"') (hslash : c ≠ '\\') :
    exceeds limit depth true false (c :: text) = exceeds limit depth true false text := by
  simp [bne_iff_ne.mpr hquote, hslash]

theorem exceeds_startString :
    exceeds limit depth false false ('"' :: text) = exceeds limit depth true false text := by
  simp

theorem exceeds_open (hc : c = '[' ∨ c = '{') :
    exceeds limit depth false false (c :: text) =
      (decide (limit < depth + 1) || exceeds limit (depth + 1) false false text) := by
  have hquote : c ≠ '"' := by
    rintro rfl
    simp at hc
  by_cases hlimit : limit < depth + 1 <;> simp [hc, hquote, hlimit]

theorem exceeds_close (hc : c = ']' ∨ c = '}') :
    exceeds limit depth false false (c :: text) = exceeds limit (depth - 1) false false text := by
  rcases hc with rfl | rfl <;> simp

/-- Every other character is passed over. -/
theorem exceeds_other (hquote : c ≠ '"') (hopen : ¬ (c = '[' ∨ c = '{'))
    (hclose : ¬ (c = ']' ∨ c = '}')) :
    exceeds limit depth false false (c :: text) = exceeds limit depth false false text := by
  rw [exceeds, if_neg (by decide), if_neg hquote, if_neg hopen, if_neg hclose]

theorem exceeds_space (hc : isSpace c = true) :
    exceeds limit depth false false (c :: text) = exceeds limit depth false false text := by
  simp only [isSpace, Bool.or_eq_true, decide_eq_true_eq] at hc
  apply exceeds_other
  all_goals
    rcases hc with ((rfl | rfl) | rfl) | rfl <;> decide

theorem exceeds_wordChar (hc : isWordChar c = true) :
    exceeds limit depth false false (c :: text) = exceeds limit depth false false text := by
  simp only [isWordChar, isMark, Bool.and_eq_true, Bool.not_eq_true', Bool.or_eq_false_iff,
    decide_eq_false_iff_not] at hc
  apply exceeds_other <;> simp [hc]

/-- A digit of a code unit is neither a mark nor a backslash. -/
theorem exceeds_hexDigit (hc : isHexDigit c = true) :
    exceeds limit depth true false (c :: text) = exceeds limit depth true false text := by
  apply exceeds_inString
  · rintro rfl
    revert hc
    decide
  · rintro rfl
    revert hc
    decide

end Steps

/-! ## §2 The scanner beside a decoder -/

section Beside

variable {d : Dialect} {limit : Nat} {s s' : State} {text before : List Char} {c : Char}

/-- The flags of the scanner where the decoder is in this mode. -/
def inString : Mode → Bool
  | .string _ _ => true
  | _ => false

def escaped : Mode → Bool
  | .string _ .escape => true
  | _ => false

/-- The scanner in the place of the decoder. -/
def exceedsAt (limit : Nat) (s : State) (text : List Char) : Bool :=
  exceeds limit s.opened.length (inString s.mode) (escaped s.mode) text

/-- Behind a value. -/
theorem exceedsAt_behind {opened : List Frame} (h : State.behind opened c = some s') :
    exceeds limit opened.length false false (c :: text) = exceedsAt limit s' text := by
  unfold State.behind at h
  by_cases hspace : isSpace c = true
  · rw [if_pos hspace] at h
    cases h
    exact exceeds_space hspace
  rw [if_neg hspace] at h
  cases opened with
  | nil => cases h
  | cons frame opened =>
    cases frame with
    | array =>
      dsimp only at h
      split_ifs at h with hcomma hend
      · cases h
        subst hcomma
        exact exceeds_other (by decide) (by decide) (by decide)
      · cases h
        exact exceeds_close (.inl hend)
    | object =>
      dsimp only at h
      split_ifs at h with hcomma hend
      · cases h
        subst hcomma
        exact exceeds_other (by decide) (by decide) (by decide)
      · cases h
        exact exceeds_close (.inr hend)

theorem length_behind {opened : List Frame} (h : State.behind opened c = some s') :
    s'.opened.length ≤ opened.length := by
  unfold State.behind at h
  by_cases hspace : isSpace c = true
  · rw [if_pos hspace] at h
    cases h
    exact le_rfl
  rw [if_neg hspace] at h
  cases opened with
  | nil => cases h
  | cons frame opened =>
    cases frame <;> dsimp only at h <;> split_ifs at h <;> cases h <;> simp

/-- A character that opens nothing. -/
theorem exceedsAt_of_le (hs : s.opened.length ≤ limit) (hlength : s'.opened.length ≤ s.opened.length)
    (hrest : exceedsAt limit s (c :: text) = exceedsAt limit s' text) :
    exceedsAt limit s (c :: text) =
      (decide (limit < s'.opened.length) || exceedsAt limit s' text) := by
  have hlimit : ¬ limit < s'.opened.length := by omega
  rw [hrest]
  simp [hlimit]

/-- One character moves both, and the scanner notices a container that is one too many. -/
theorem exceedsAt_step (h : s.step d c = some s') (hs : s.opened.length ≤ limit) :
    exceedsAt limit s (c :: text) =
      (decide (limit < s'.opened.length) || exceedsAt limit s' text) := by
  obtain ⟨opened, mode⟩ := s
  unfold State.step at h
  cases mode with
  | value empty =>
    dsimp only at h
    split_ifs at h with hspace hquote harray hobject hend hmark
    · cases h
      exact exceedsAt_of_le hs le_rfl (exceeds_space hspace)
    · cases h
      subst hquote
      exact exceedsAt_of_le hs le_rfl exceeds_startString
    · cases h
      exact exceeds_open (.inl harray)
    · cases h
      exact exceeds_open (.inr hobject)
    · cases h
      refine exceedsAt_of_le hs (by simp) ((exceeds_close (.inl hend.1)).trans ?_)
      simp [exceedsAt, inString, escaped]
    · cases h
      have hword : isWordChar c = true := by simp [isWordChar, hspace, hmark]
      exact exceedsAt_of_le hs le_rfl (exceeds_wordChar hword)
  | key empty =>
    dsimp only at h
    split_ifs at h with hspace hquote hend
    · cases h
      exact exceedsAt_of_le hs le_rfl (exceeds_space hspace)
    · cases h
      subst hquote
      exact exceedsAt_of_le hs le_rfl exceeds_startString
    · cases h
      refine exceedsAt_of_le hs (by simp) ((exceeds_close (.inr hend.1)).trans ?_)
      simp [exceedsAt, inString, escaped]
  | colon =>
    dsimp only at h
    split_ifs at h with hspace hcolon
    · cases h
      exact exceedsAt_of_le hs le_rfl (exceeds_space hspace)
    · cases h
      subst hcolon
      exact exceedsAt_of_le hs le_rfl (exceeds_other (by decide) (by decide) (by decide))
  | next => exact exceedsAt_of_le hs (length_behind h) (exceedsAt_behind h)
  | word seen =>
    dsimp only at h
    split_ifs at h with hword hseen
    · cases h
      exact exceedsAt_of_le hs le_rfl (exceeds_wordChar hword)
    · exact exceedsAt_of_le hs (length_behind h) (exceedsAt_behind h)
  | string name place =>
    cases place with
    | plain =>
      dsimp only at h
      by_cases hquote : c = '"'
      · rw [if_pos hquote] at h
        cases h
        subst hquote
        refine exceedsAt_of_le hs le_rfl (exceeds_endString.trans ?_)
        cases name <;> rfl
      rw [if_neg hquote] at h
      split_ifs at h with hslash hraw
      · cases h
        subst hslash
        exact exceedsAt_of_le hs le_rfl exceeds_backslash
      · cases h
        exact exceedsAt_of_le hs le_rfl (exceeds_inString hquote hslash)
    | escape =>
      dsimp only at h
      split_ifs at h
      · cases h
        exact exceedsAt_of_le hs le_rfl exceeds_escaped
      · cases h
        exact exceedsAt_of_le hs le_rfl exceeds_escaped
    | unit missing =>
      dsimp only at h
      by_cases hhex : isHexDigit c = true
      · rw [if_pos hhex] at h
        cases h
        refine exceedsAt_of_le hs le_rfl ((exceeds_hexDigit hhex).trans ?_)
        cases missing <;> rfl
      · rw [if_neg hhex] at h
        cases h

/-- While the scanner finds nothing, the decoder stays within the limit. -/
theorem length_opened_le (hrun : s.run d before = some s') (hs : s.opened.length ≤ limit)
    (hscan : exceedsAt limit s (before ++ text) = false) : s'.opened.length ≤ limit := by
  -- induction on what the decoder has read
  induction before generalizing s with
  | nil =>
    obtain rfl := Option.some.inj hrun
    exact hs
  | cons c before ih =>
    unfold State.run at hrun
    cases hstep : s.step d c with
    | none =>
      rw [hstep] at hrun
      cases hrun
    | some t =>
      rw [hstep] at hrun
      rw [List.cons_append, exceedsAt_step hstep hs, Bool.or_eq_false_iff,
        decide_eq_false_iff_not, Nat.not_lt] at hscan
      exact ih hrun hscan.1 hscan.2

end Beside

/-! ## §3 The scanner on a valid text -/

section Valid

variable {d : Dialect} {limit depth : Nat} {text a rest : List Char}

/-- The scanner passes over the text. -/
theorem exceeds_space_append (ha : Space a) :
    exceeds limit depth false false (a ++ rest) = exceeds limit depth false false rest := by
  induction a with
  | nil => rfl
  | cons c a ih =>
    rw [List.cons_append, exceeds_space (ha c List.mem_cons_self)]
    exact ih fun x hx => ha x (List.mem_cons_of_mem _ hx)

theorem exceeds_word_append (ha : ∀ c ∈ a, isWordChar c = true) :
    exceeds limit depth false false (a ++ rest) = exceeds limit depth false false rest := by
  induction a with
  | nil => rfl
  | cons c a ih =>
    rw [List.cons_append, exceeds_wordChar (ha c List.mem_cons_self)]
    exact ih fun x hx => ha x (List.mem_cons_of_mem _ hx)

theorem exceeds_chars_append (ha : Chars d a) :
    exceeds limit depth true false (a ++ rest) = exceeds limit depth true false rest := by
  induction ha with
  | nil => rfl
  | raw _ hquote hslash _ ih => rw [List.cons_append, exceeds_inString hquote hslash, ih]
  | escape _ _ _ ih =>
    rw [List.cons_append, exceeds_backslash, List.cons_append, exceeds_escaped, ih]
  | unit hhex _ ih =>
    simp only [List.mem_cons, List.not_mem_nil, or_false, forall_eq_or_imp, forall_eq] at hhex
    obtain ⟨h₁, h₂, h₃, h₄⟩ := hhex
    simp only [List.cons_append]
    rw [exceeds_backslash, exceeds_escaped, exceeds_hexDigit h₁, exceeds_hexDigit h₂,
      exceeds_hexDigit h₃, exceeds_hexDigit h₄, ih]

/-- A string with its marks. -/
theorem exceeds_string_append (ha : Chars d a) :
    exceeds limit depth false false ('"' :: a ++ '"' :: rest) =
      exceeds limit depth false false rest := by
  rw [List.cons_append, exceeds_startString, exceeds_chars_append ha, exceeds_endString]

theorem exceeds_label_append {name b c : List Char} (ha : Space a) (hname : Chars d name)
    (hb : Space b) (hc : Space c) :
    exceeds limit depth false false (label a name b c ++ rest) =
      exceeds limit depth false false rest := by
  have hlabel : label a name b c ++ rest =
      a ++ ('"' :: name ++ '"' :: (b ++ ':' :: (c ++ rest))) := by simp [label]
  rw [hlabel, exceeds_space_append ha, exceeds_string_append hname, exceeds_space_append hb,
    exceeds_other (by decide) (by decide) (by decide), exceeds_space_append hc]

/-- Of two values that follow each other, one may be nested too deeply. -/
theorem exceeds_or (m n : Nat) :
    (decide (limit < depth + m) || decide (limit < depth + n)) =
      decide (limit < depth + max m n) := by
  rw [← Bool.decide_or, decide_eq_decide]
  omega

/-- A container, by what stands in it. -/
theorem exceeds_container {c e : Char} {n : Nat} (hopen : c = '[' ∨ c = '{')
    (hclose : e = ']' ∨ e = '}') (hbody : depth + 1 ≤ limit → ∀ rest,
      exceeds limit (depth + 1) false false (text ++ rest) =
        (decide (limit < depth + 1 + n) || exceeds limit (depth + 1) false false rest)) :
    exceeds limit depth false false (c :: text ++ [e] ++ rest) =
      (decide (limit < depth + (n + 1)) || exceeds limit depth false false rest) := by
  rw [List.append_assoc, List.cons_append, exceeds_open hopen]
  by_cases hlimit : limit < depth + 1
  · have hdeep : limit < depth + (n + 1) := by omega
    simp [hlimit, hdeep]
  · have hsum : depth + 1 + n = depth + (n + 1) := by omega
    rw [hbody (Nat.not_lt.mp hlimit), List.singleton_append, exceeds_close hclose,
      Nat.add_sub_cancel, hsum]
    simp [hlimit]

/-- The scanner finds something in a part of a text where that is nested too deeply, or
behind it. -/
theorem exceeds_spells {part : Part} {ts : List Shape} (h : Spells d part ts text)
    (hdepth : depth ≤ limit) :
    exceeds limit depth false false (text ++ rest) =
      (decide (limit < depth + heights ts) || exceeds limit depth false false rest) := by
  -- induction on the derivation
  induction h generalizing depth rest with
  | word _ hchars _ =>
    rw [exceeds_word_append hchars]
    simp [Shape.height, hdepth]
  | @string cs hchars =>
    have htext : '"' :: cs ++ ['"'] ++ rest = '"' :: cs ++ '"' :: rest := by simp
    rw [htext, exceeds_string_append hchars]
    simp [Shape.height, hdepth]
  | emptyArray ha =>
    refine (exceeds_container (n := 0) (.inl rfl) (.inl rfl) fun hbody rest => ?_).trans ?_
    · have hflat : ¬ limit < depth + 1 + 0 := Nat.not_lt.mpr hbody
      rw [exceeds_space_append ha, decide_eq_false hflat, Bool.false_or]
    · simp [Shape.height]
  | @array ts text _ ih =>
    refine (exceeds_container (n := heights ts) (.inl rfl) (.inl rfl) fun hbody rest => ?_).trans ?_
    · exact ih hbody
    · simp [Shape.height]
  | emptyObject ha =>
    refine (exceeds_container (n := 0) (.inr rfl) (.inr rfl) fun hbody rest => ?_).trans ?_
    · have hflat : ¬ limit < depth + 1 + 0 := Nat.not_lt.mpr hbody
      rw [exceeds_space_append ha, decide_eq_false hflat, Bool.false_or]
    · simp [Shape.height]
  | @object ts text _ ih =>
    refine (exceeds_container (n := heights ts) (.inr rfl) (.inr rfl) fun hbody rest => ?_).trans ?_
    · exact ih hbody
    · simp [Shape.height]
  | item ha _ hb ih =>
    rw [List.append_assoc, List.append_assoc, exceeds_space_append ha, ih hdepth,
      exceeds_space_append hb]
  | @items t ts a text b rest' ha _ hb _ ih ihrest =>
    have htext : a ++ text ++ b ++ ',' :: rest' ++ rest =
        a ++ (text ++ (b ++ ',' :: (rest' ++ rest))) := by simp
    rw [htext, exceeds_space_append ha, ih hdepth, exceeds_space_append hb,
      exceeds_other (by decide) (by decide) (by decide), ihrest hdepth,
      ← Bool.or_assoc, exceeds_or]
    simp
  | member ha hname hb hc _ he ih =>
    rw [List.append_assoc, List.append_assoc, exceeds_label_append ha hname hb hc,
      ih hdepth, exceeds_space_append he]
  | @members t ts a name b c text e rest' ha hname hb hc _ he _ ih ihrest =>
    have htext : label a name b c ++ text ++ e ++ ',' :: rest' ++ rest =
        label a name b c ++ (text ++ (e ++ ',' :: (rest' ++ rest))) := by simp
    rw [htext, exceeds_label_append ha hname hb hc, ih hdepth, exceeds_space_append he,
      exceeds_other (by decide) (by decide) (by decide), ihrest hdepth,
      ← Bool.or_assoc, exceeds_or]
    simp

/-- On a valid text the scanner is exact. -/
theorem exceeds_text {t : Shape} (h : Text d t text) :
    exceeds limit 0 false false text = decide (limit < t.height) := by
  obtain ⟨a, body, b, ha, hbody, hb, rfl⟩ := h
  have hend : exceeds limit 0 false false b = false := by
    rw [← List.append_nil b, exceeds_space_append hb, exceeds]
  rw [List.append_assoc, exceeds_space_append ha, exceeds_spells hbody (Nat.zero_le _), hend]
  simp

end Valid

end DecisionFirewall.Lib.Nesting
