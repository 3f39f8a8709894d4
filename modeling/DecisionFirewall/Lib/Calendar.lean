import Mathlib

/-!
# Calendar Texts

Instants of the proleptic Gregorian calendar in UTC, counted in microseconds from the
beginning of year 1, and their texts with a fraction only where there is one. Within the years
1 to 9999 the texts are ordered as the instants are.

- §1 years
- §2 months and days
- §3 fields of fixed width
- §4 texts of instants
- §5 reading a text back
-/

namespace DecisionFirewall.Lib.Calendar

/-! ## §1 Years -/

/-- The days before a year. -/
def daysBeforeYear (year : Nat) : Nat :=
  let y := year - 1
  y * 365 + y / 4 - y / 100 + y / 400

/-- The year of a day, by the days of 400, 100, 4 years and one. The last day of the longest
cycles would begin a fourth century or a fourth year. -/
def yearOf (day : Nat) : Nat :=
  let century := min (day % 146097 / 36524) 3
  let inCentury := day % 146097 - century * 36524
  400 * (day / 146097) + 100 * century + 4 * (inCentury / 1461) +
    min (inCentury % 1461 / 365) 3 + 1

/-- A day is in its year. -/
theorem yearOf_bounds (day : Nat) :
    daysBeforeYear (yearOf day) ≤ day ∧ day < daysBeforeYear (yearOf day + 1) := by
  unfold daysBeforeYear yearOf
  dsimp only
  generalize hcycle : day / 146097 = cycle
  generalize hcentury : min (day % 146097 / 36524) 3 = century
  have hcenturyLe : century ≤ 3 := by omega
  generalize hinCentury : day % 146097 - century * 36524 = inCentury
  have hcenturyDays : inCentury ≤ 36524 ∧ (century < 3 → inCentury < 36524) := by omega
  generalize hleap : inCentury / 1461 = leap
  generalize hyear : min (inCentury % 1461 / 365) 3 = year
  have hleapLe : leap ≤ 24 := by omega
  have hyearLe : year ≤ 3 := by omega
  have hfour : (400 * cycle + 100 * century + 4 * leap + year) / 4 =
      100 * cycle + 25 * century + leap := by omega
  have hhundred : (400 * cycle + 100 * century + 4 * leap + year) / 100 =
      4 * cycle + century := by omega
  have hfourHundred : (400 * cycle + 100 * century + 4 * leap + year) / 400 = cycle := by omega
  have hday : day = 146097 * cycle + 36524 * century + inCentury := by omega
  rw [Nat.add_sub_cancel, Nat.add_sub_cancel, hfour, hhundred, hfourHundred]
  refine ⟨by omega, ?_⟩
  -- the next year is in the same cycle of four, or it begins one
  by_cases hlast : year = 3
  · have hfour' : (400 * cycle + 100 * century + 4 * leap + year + 1) / 4 =
        100 * cycle + 25 * century + leap + 1 := by omega
    rw [hfour']
    by_cases hcenturyEnds : leap = 24
    · have hhundred' : (400 * cycle + 100 * century + 4 * leap + year + 1) / 100 =
          4 * cycle + century + 1 := by omega
      rw [hhundred']
      by_cases hcycleEnds : century = 3
      · omega
      · omega
    · have hhundred' : (400 * cycle + 100 * century + 4 * leap + year + 1) / 100 =
          4 * cycle + century := by omega
      rw [hhundred']
      omega
  · have hfour' : (400 * cycle + 100 * century + 4 * leap + year + 1) / 4 =
        100 * cycle + 25 * century + leap := by omega
    have hhundred' : (400 * cycle + 100 * century + 4 * leap + year + 1) / 100 =
        4 * cycle + century := by omega
    rw [hfour', hhundred']
    omega

theorem daysBeforeYear_mono : Monotone daysBeforeYear := by
  refine monotone_nat_of_le_succ fun year => ?_
  unfold daysBeforeYear
  dsimp only
  cases year with
  | zero => simp
  | succ y =>
    rw [Nat.add_sub_cancel, Nat.add_sub_cancel]
    have hhundred : (y + 1) / 100 ≤ y / 100 + 1 := by omega
    have hfour : y / 4 ≤ (y + 1) / 4 := by omega
    have hfourHundred : y / 400 ≤ (y + 1) / 400 := by omega
    have hless : y / 100 ≤ y / 4 := by omega
    omega

/-- Later days are not in earlier years. -/
theorem yearOf_mono : Monotone yearOf := by
  intro day day' h
  by_contra hlt
  have hnext : yearOf day' + 1 ≤ yearOf day := Nat.not_le.mp hlt
  have hbefore := daysBeforeYear_mono hnext
  have hday := (yearOf_bounds day).1
  have hday' := (yearOf_bounds day').2
  omega

/-! ## §2 Months and days -/

def isLeap (year : Nat) : Bool := year % 4 = 0 && (year % 100 ≠ 0 || year % 400 = 0)

def monthLengths (year : Nat) : List Nat :=
  [31, if isLeap year then 29 else 28, 31, 30, 31, 30, 31, 31, 30, 31, 30, 31]

/-- The month and the day of the month, `day` days behind the beginning of `month`. -/
def monthDay (month : Nat) : List Nat → Nat → List Nat
  | [], day => [month, day + 1]
  | length :: lengths, day =>
    if day < length then [month, day + 1] else monthDay (month + 1) lengths (day - length)

/-- Year, month and day. -/
def dateOf (day : Nat) : List Nat :=
  yearOf day :: monthDay 1 (monthLengths (yearOf day)) (day - daysBeforeYear (yearOf day))

theorem monthDay_eq (month : Nat) (lengths : List Nat) (day : Nat) :
    ∃ m d, monthDay month lengths day = [m, d] ∧ month ≤ m ∧ m ≤ month + lengths.length ∧
      1 ≤ d ∧ d ≤ day + 1 := by
  induction lengths generalizing month day with
  | nil => exact ⟨month, day + 1, rfl, le_rfl, le_rfl, Nat.succ_pos _, le_rfl⟩
  | cons length lengths ih =>
    unfold monthDay
    split
    · exact ⟨month, day + 1, rfl, le_rfl, Nat.le_add_right _ _, Nat.succ_pos _, le_rfl⟩
    · obtain ⟨m, d, heq, hmonth, hlength, hpos, hday⟩ := ih (month + 1) (day - length)
      refine ⟨m, d, heq, by omega, ?_, hpos, by omega⟩
      rw [List.length_cons]
      omega

/-- Within a year the months and days are ordered as the days are. -/
theorem monthDay_lt (month : Nat) (lengths : List Nat) {day day' : Nat} (h : day < day') :
    monthDay month lengths day < monthDay month lengths day' := by
  -- induction on the months; the first month that the earlier day is in decides
  induction lengths generalizing month day day' with
  | nil => simp [monthDay, List.cons_lt_cons_iff, h]
  | cons length lengths ih =>
    unfold monthDay
    by_cases hday' : day' < length
    · rw [if_pos (h.trans hday'), if_pos hday']
      simp [List.cons_lt_cons_iff, h]
    · rw [if_neg hday']
      by_cases hday : day < length
      · rw [if_pos hday]
        obtain ⟨m, d, heq, hmonth, -⟩ := monthDay_eq (month + 1) lengths (day' - length)
        rw [heq]
        exact List.cons_lt_cons_iff.mpr (.inl hmonth)
      · rw [if_neg hday]
        exact ih (month + 1) (by omega)

/-- A day of the year is a day of one of its months. -/
theorem monthDay_le (month : Nat) {lengths : List Nat} {day : Nat} (h : day < lengths.sum)
    (hlengths : ∀ length ∈ lengths, length ≤ 31) :
    ∃ m d, monthDay month lengths day = [m, d] ∧ m < month + lengths.length ∧ d ≤ 31 := by
  induction lengths generalizing month day with
  | nil => exact absurd h (Nat.not_lt_zero _)
  | cons length lengths ih =>
    obtain ⟨hlength, hrest⟩ := List.forall_mem_cons.mp hlengths
    unfold monthDay
    split
    · refine ⟨month, day + 1, rfl, ?_, by omega⟩
      rw [List.length_cons]
      omega
    · rw [List.sum_cons] at h
      have hlater : day - length < lengths.sum := by omega
      obtain ⟨m, d, heq, hmonth, hday⟩ := ih (month + 1) hlater hrest
      refine ⟨m, d, heq, ?_, hday⟩
      rw [List.length_cons]
      omega

/-- The months of a year are the year. -/
theorem daysBeforeYear_succ {year : Nat} (h : 0 < year) :
    daysBeforeYear (year + 1) = daysBeforeYear year + (monthLengths year).sum := by
  obtain ⟨y, rfl⟩ := Nat.exists_eq_add_of_lt h
  rw [Nat.zero_add]
  have hmore : y / 100 ≤ y / 4 := by omega
  unfold daysBeforeYear monthLengths
  rw [Nat.add_sub_cancel, Nat.add_sub_cancel]
  -- the three quotients grow with the years that they divide
  by_cases hfour : (y + 1) % 4 = 0
  · have hquarter : (y + 1) / 4 = y / 4 + 1 := by omega
    by_cases hhundred : (y + 1) % 100 = 0
    · have hcentury : (y + 1) / 100 = y / 100 + 1 := by omega
      by_cases hfourHundred : (y + 1) % 400 = 0
      · have hcycle : (y + 1) / 400 = y / 400 + 1 := by omega
        simp [isLeap, hfour, hfourHundred]
        omega
      · have hcycle : (y + 1) / 400 = y / 400 := by omega
        simp [isLeap, hhundred, hfourHundred]
        omega
    · have hcentury : (y + 1) / 100 = y / 100 := by omega
      have hcycle : (y + 1) / 400 = y / 400 := by omega
      simp [isLeap, hfour, hhundred]
      omega
  · have hquarter : (y + 1) / 4 = y / 4 := by omega
    have hcentury : (y + 1) / 100 = y / 100 := by omega
    have hcycle : (y + 1) / 400 = y / 400 := by omega
    simp [isLeap, hfour]
    omega

/-- Dates are ordered as their days are. -/
theorem dateOf_lt {day day' : Nat} (h : day < day') : dateOf day < dateOf day' := by
  unfold dateOf
  rcases (yearOf_mono h.le).lt_or_eq with hyear | hyear
  · exact List.cons_lt_cons_iff.mpr (.inl hyear)
  · rw [← hyear]
    refine List.cons_lt_cons_iff.mpr (.inr ⟨rfl, monthDay_lt _ _ ?_⟩)
    have hbefore := (yearOf_bounds day).1
    omega

/-! ## §3 Fields of fixed width -/

/-- The last decimal digits of a number. -/
def pad : Nat → Nat → List Char
  | 0, _ => []
  | width + 1, n => pad width (n / 10) ++ [Nat.digitChar (n % 10)]

@[simp] theorem length_pad (width n : Nat) : (pad width n).length = width := by
  induction width generalizing n with
  | zero => rfl
  | succ width ih => rw [pad, List.length_append, ih, List.length_singleton]

/-- What precedes decides, where both are equally long. -/
theorem append_lt_append {α : Type} [LT α] {xs ys : List α} (h : xs < ys)
    (hlength : xs.length = ys.length) (as bs : List α) : xs ++ as < ys ++ bs := by
  induction xs generalizing ys with
  | nil =>
    obtain rfl := List.length_eq_zero_iff.mp hlength.symm
    exact absurd h (List.not_lt_nil _)
  | cons x xs ih =>
    cases ys with
    | nil => cases hlength
    | cons y ys =>
      rcases List.cons_lt_cons_iff.mp h with hhead | ⟨rfl, htail⟩
      · exact List.cons_lt_cons_iff.mpr (.inl hhead)
      · exact List.cons_lt_cons_iff.mpr (.inr ⟨rfl, ih htail (Nat.succ.inj hlength)⟩)

theorem digitChar_lt {a b : Nat} (h : a < b) (hb : b < 10) : Nat.digitChar a < Nat.digitChar b := by
  have hall : ∀ b < 10, ∀ a < b, Nat.digitChar a < Nat.digitChar b := by decide
  exact hall b hb a h

/-- Numbers of one width are ordered as their texts are. -/
theorem pad_lt {width n m : Nat} (h : n < m) (hm : m < 10 ^ width) : pad width n < pad width m := by
  induction width generalizing n m with
  | zero => omega
  | succ width ih =>
    rw [pow_succ] at hm
    have hlength : (pad width (n / 10)).length = (pad width (m / 10)).length := by simp
    rcases (Nat.div_le_div_right (c := 10) h.le).lt_or_eq with hdiv | hdiv
    · exact append_lt_append (ih hdiv (by omega)) hlength _ _
    · rw [pad, pad, hdiv]
      refine List.append_left_lt (List.cons_lt_cons_iff.mpr (.inl (digitChar_lt ?_ ?_)))
      · omega
      · omega

/-- Numbers, each with a width and with what follows it. -/
def render : List (Nat × List Char) → List Nat → List Char
  | (width, separator) :: layout, n :: ns => pad width n ++ (separator ++ render layout ns)
  | _, _ => []

/-- The numbers fit into the layout. -/
inductive Fits : List (Nat × List Char) → List Nat → Prop where
  | nil : Fits [] []
  | cons {width n : Nat} {separator : List Char} {layout : List (Nat × List Char)} {ns : List Nat} :
      n < 10 ^ width → Fits layout ns → Fits ((width, separator) :: layout) (n :: ns)

section Layout

variable {layout : List (Nat × List Char)} {ns ms : List Nat}

theorem length_render (hn : Fits layout ns) (hm : Fits layout ms) :
    (render layout ns).length = (render layout ms).length := by
  induction hn generalizing ms with
  | nil =>
    cases hm
    rfl
  | cons _ _ ih =>
    cases hm with
    | cons _ hm => simp [render, ih hm]

/-- Texts of one layout are ordered as their numbers are. -/
theorem render_lt (hn : Fits layout ns) (hm : Fits layout ms) (h : ns < ms) :
    render layout ns < render layout ms := by
  induction hn generalizing ms with
  | nil =>
    cases hm
    exact absurd h (List.not_lt_nil _)
  | cons _ _ ih =>
    cases hm with
    | cons hwidth hm =>
      rcases List.cons_lt_cons_iff.mp h with hhead | ⟨rfl, htail⟩
      · exact append_lt_append (pad_lt hhead hwidth) (by simp) _ _
      · exact List.append_left_lt (List.append_left_lt (ih hm htail))

end Layout

/-! ## §4 Texts of instants -/

/-- The instants before the end of year 9999. -/
def END : Nat := 3652059 * 86400 * 1000000

/-- `YYYY-MM-DDTHH:MM:SS`. -/
def LAYOUT : List (Nat × List Char) :=
  [(4, ['-']), (2, ['-']), (2, ['T']), (2, [':']), (2, [':']), (2, [])]

/-- Year, month, day, hour, minute and second. -/
def fieldsOf (second : Nat) : List Nat :=
  dateOf (second / 86400) ++ [second % 86400 / 3600, second % 3600 / 60, second % 60]

/-- The fraction of a second, if there is one. -/
def fraction (microsecond : Nat) : List Char :=
  if microsecond = 0 then [] else '.' :: pad 6 microsecond

def text (instant : Nat) : List Char :=
  render LAYOUT (fieldsOf (instant / 1000000)) ++
    (fraction (instant % 1000000) ++ ['+', '0', '0', ':', '0', '0'])

/-- `datetime.isoformat` of an instant in UTC; `none` outside the years 1 to 9999. -/
def isoformat (instant : Int) : Option String :=
  if 0 ≤ instant ∧ instant < END then some (String.ofList (text instant.toNat)) else none

theorem fieldsOf_lt {second second' : Nat} (h : second < second') :
    fieldsOf second < fieldsOf second' := by
  have hlength (day : Nat) : (dateOf day).length = 3 := by
    obtain ⟨m, d, heq, -⟩ := monthDay_eq 1 (monthLengths (yearOf day))
      (day - daysBeforeYear (yearOf day))
    rw [dateOf, heq]
    rfl
  unfold fieldsOf
  rcases (Nat.div_le_div_right (c := 86400) h.le).lt_or_eq with hday | hday
  · exact append_lt_append (dateOf_lt hday) ((hlength _).trans (hlength _).symm) _ _
  · rw [hday]
    refine List.append_left_lt ?_
    simp only [List.cons_lt_cons_iff, List.not_lt_nil, and_false, or_false]
    omega

theorem fits_fieldsOf {second : Nat} (h : second < 3652059 * 86400) :
    Fits LAYOUT (fieldsOf second) := by
  have hdays : second / 86400 < 3652059 := by omega
  obtain ⟨hbefore, hafter⟩ := yearOf_bounds (second / 86400)
  have hyear : yearOf (second / 86400) < 10 ^ 4 := by
    by_contra hlate
    have hlast : daysBeforeYear (10 ^ 4) ≤ daysBeforeYear (yearOf (second / 86400)) :=
      daysBeforeYear_mono (Nat.not_lt.mp hlate)
    have hend : daysBeforeYear (10 ^ 4) = 3652059 := by rfl
    omega
  have hpos : 0 < yearOf (second / 86400) := Nat.succ_pos _
  rw [daysBeforeYear_succ hpos] at hafter
  have hlengths : ∀ length ∈ monthLengths (yearOf (second / 86400)), length ≤ 31 := by
    unfold monthLengths
    split <;> decide
  have hinYear : second / 86400 - daysBeforeYear (yearOf (second / 86400)) <
      (monthLengths (yearOf (second / 86400))).sum := by omega
  obtain ⟨m, d, heq, hmonth, hday⟩ := monthDay_le 1 hinYear hlengths
  have hmonths : (monthLengths (yearOf (second / 86400))).length = 12 := rfl
  unfold fieldsOf dateOf LAYOUT
  rw [heq]
  refine .cons hyear (.cons (by omega) (.cons (by omega) (.cons ?_ (.cons ?_ (.cons ?_ .nil)))))
  · omega
  · omega
  · omega

theorem fraction_lt {m n : Nat} (h : m < n) (hn : n < 1000000) (as : List Char) :
    fraction m ++ '+' :: as < fraction n ++ '+' :: as := by
  have hne : n ≠ 0 := Nat.ne_of_gt (Nat.zero_lt_of_lt h)
  unfold fraction
  rw [if_neg hne]
  by_cases hm : m = 0
  · rw [if_pos hm]
    exact List.cons_lt_cons_iff.mpr (.inl (by decide))
  · rw [if_neg hm]
    exact List.cons_lt_cons_iff.mpr (.inr ⟨rfl, append_lt_append (pad_lt h hn) (by simp) _ _⟩)

/-- Texts are ordered as their instants are. -/
theorem text_lt {instant instant' : Nat} (h : instant < instant') (hend : instant' < END) :
    text instant < text instant' := by
  unfold END at hend
  have hfits : Fits LAYOUT (fieldsOf (instant / 1000000)) := fits_fieldsOf (by omega)
  have hfits' : Fits LAYOUT (fieldsOf (instant' / 1000000)) := fits_fieldsOf (by omega)
  unfold text
  rcases (Nat.div_le_div_right (c := 1000000) h.le).lt_or_eq with hsecond | hsecond
  · exact append_lt_append (render_lt hfits hfits' (fieldsOf_lt hsecond))
      (length_render hfits hfits') _ _
  · rw [hsecond]
    exact List.append_left_lt (fraction_lt (by omega) (by omega) _)

/-- `isoformat` keeps the order of the instants. -/
theorem isoformat_lt {instant instant' : Int} {s s' : String} (hs : isoformat instant = some s)
    (hs' : isoformat instant' = some s') : s < s' ↔ instant < instant' := by
  have hlt {i j : Int} {a b : String} (ha : isoformat i = some a) (hb : isoformat j = some b)
      (h : i < j) : a < b := by
    unfold isoformat at ha hb
    split_ifs at ha hb with hi hj
    cases ha
    cases hb
    rw [String.lt_iff_toList_lt, String.toList_ofList, String.toList_ofList]
    exact text_lt (by omega) (by omega)
  constructor
  · intro h
    by_contra hnot
    rcases (Int.not_lt.mp hnot).lt_or_eq with hgt | rfl
    · exact lt_asymm h (hlt hs' hs hgt)
    · rw [hs] at hs'
      cases hs'
      exact lt_irrefl _ h
  · exact hlt hs hs'

/-- The characters of the texts. -/
def ALPHABET : List Char :=
  ['0', '1', '2', '3', '4', '5', '6', '7', '8', '9', '-', 'T', ':', '.', '+']

theorem mem_pad {width n : Nat} {c : Char} (h : c ∈ pad width n) : c ∈ ALPHABET := by
  induction width generalizing n with
  | zero => cases h
  | succ width ih =>
    rcases List.mem_append.mp h with h | h
    · exact ih h
    · have hall : ∀ digit < 10, Nat.digitChar digit ∈ ALPHABET := by decide
      rw [List.mem_singleton.mp h]
      exact hall _ (Nat.mod_lt _ (by decide))

theorem mem_render {layout : List (Nat × List Char)} {ns : List Nat} {c : Char}
    (hlayout : ∀ field ∈ layout, ∀ c ∈ field.2, c ∈ ALPHABET) (h : c ∈ render layout ns) :
    c ∈ ALPHABET := by
  induction layout generalizing ns with
  | nil => cases h
  | cons field layout ih =>
    obtain ⟨hfield, hrest⟩ := List.forall_mem_cons.mp hlayout
    cases ns with
    | nil => cases h
    | cons n ns =>
      rcases List.mem_append.mp h with h | h
      · exact mem_pad h
      rcases List.mem_append.mp h with h | h
      · exact hfield c h
      · exact ih hrest h

theorem mem_text {instant : Nat} {c : Char} (h : c ∈ text instant) : c ∈ ALPHABET := by
  unfold text at h
  rcases List.mem_append.mp h with h | h
  · exact mem_render (by simp [LAYOUT, ALPHABET]) h
  rcases List.mem_append.mp h with h | h
  · unfold fraction at h
    split at h
    · cases h
    · rcases List.mem_cons.mp h with rfl | h
      · simp [ALPHABET]
      · exact mem_pad h
  · have hall : ∀ c ∈ ['+', '0', '0', ':', '0', '0'], c ∈ ALPHABET := by simp [ALPHABET]
    exact hall c h

/-! ## §5 Reading a text back -/

/-- The last instant whose text is not behind this one, by halves of what is left. -/
def locate (s : List Char) : Nat → Nat → Nat
  | 0, base => base
  | bits + 1, base =>
    if base + 2 ^ bits < END ∧ text (base + 2 ^ bits) ≤ s then locate s bits (base + 2 ^ bits)
    else locate s bits base

theorem locate_text {instant bits base : Nat} (hlow : base ≤ instant)
    (hhigh : instant < base + 2 ^ bits) (hend : instant < END) :
    locate (text instant) bits base = instant := by
  -- induction on what is left; the instant stays between the bounds
  induction bits generalizing base with
  | zero =>
    rw [pow_zero] at hhigh
    unfold locate
    omega
  | succ bits ih =>
    unfold locate
    rw [pow_succ] at hhigh
    by_cases hhalf : base + 2 ^ bits ≤ instant
    · have hle : text (base + 2 ^ bits) ≤ text instant := by
        rcases hhalf.lt_or_eq with hlt | heq
        · exact (text_lt hlt hend).le
        · exact (congrArg text heq).le
      rw [if_pos ⟨hhalf.trans_lt hend, hle⟩]
      exact ih hhalf (by omega)
    · have hnot : ¬ (base + 2 ^ bits < END ∧ text (base + 2 ^ bits) ≤ text instant) :=
        fun h => absurd (text_lt (Nat.not_le.mp hhalf) h.1) (not_lt.mpr h.2)
      rw [if_neg hnot]
      exact ih hlow (Nat.not_le.mp hhalf)

/-- The instant that a text is the text of. -/
def readIsoformat (s : String) : Option Int :=
  let instant : Int := locate s.toList 59 0
  if isoformat instant = some s then some instant else none

theorem readIsoformat_isoformat {instant : Int} {s : String} (h : isoformat instant = some s) :
    readIsoformat s = some instant := by
  have htext := h
  unfold isoformat at htext
  split_ifs at htext with hrange
  cases htext
  have hend : instant.toNat < END := by omega
  have hbits : END ≤ 0 + 2 ^ 59 := by decide
  have hlocate : (locate (text instant.toNat) 59 0 : Int) = instant := by
    rw [locate_text (Nat.zero_le _) (hend.trans_le hbits) hend]
    omega
  unfold readIsoformat
  dsimp only
  rw [String.toList_ofList, hlocate, if_pos h]

example : isoformat 63902822400500000 = some "2026-01-01T00:00:00.500000+00:00" := by
  decide +kernel

end DecisionFirewall.Lib.Calendar
