import Mathlib

/-!
# Lines of a Text

Readers split a text into lines in several ways: they differ in which characters end a line
and in which two characters end one line together. What is read of a text does not depend
on what follows, up to the line that is still open.
-/

namespace DecisionFirewall.Lib

/-- Which characters end a line, and which of them only complete the end before them. -/
structure LineEnds (α : Type*) where
  isBreak : α → Bool
  /-- the second character belongs to the break that the first one made -/
  joins : α → α → Bool

namespace LineEnds

/-- What a reader has seen: the finished lines, the open line, and the break it stands
behind. -/
structure Scan (α : Type*) where
  finished : List (List α)
  openLine : List α
  last : Option α

variable {α : Type*} (L : LineEnds α)

def Scan.start : Scan α := ⟨[], [], none⟩

def scanStep (s : Scan α) (c : α) : Scan α :=
  if s.last.any (L.joins · c) then { s with last := none }
  else if L.isBreak c then ⟨s.finished ++ [s.openLine], [], some c⟩
  else ⟨s.finished, s.openLine ++ [c], none⟩

def scan (text : List α) : Scan α := text.foldl L.scanStep .start

/-- The lines of a text; what follows the last break is a line if there is any of it. -/
def lines (text : List α) : List (List α) :=
  let s := L.scan text
  if s.openLine = [] then s.finished else s.finished ++ [s.openLine]

/-- What follows the last break. -/
def lastLine (text : List α) : List α := (L.scan text).openLine

variable {L}

/-- A line without breaks continues the open line. -/
theorem foldl_scanStep_line {line : List α} (hne : line ≠ [])
    (hbreak : ∀ c ∈ line, L.isBreak c = false) (hjoin : ∀ c ∈ line, ∀ b, L.joins b c = false)
    (s : Scan α) : line.foldl L.scanStep s = ⟨s.finished, s.openLine ++ line, none⟩ := by
  induction line generalizing s with
  | nil => exact absurd rfl hne
  | cons c line ih =>
    have hstep : L.scanStep s c = ⟨s.finished, s.openLine ++ [c], none⟩ := by
      have hany : s.last.any (L.joins · c) = false := by
        cases s.last with
        | none => rfl
        | some b => exact hjoin c (by simp) b
      simp [scanStep, hany, hbreak c (by simp)]
    rw [List.foldl_cons, hstep]
    cases line with
    | nil => rfl
    | cons d line =>
      rw [ih (by simp) (fun e he => hbreak e (by simp [he])) fun e he => hjoin e (by simp [he])]
      simp

/-- A line and its break, written behind a text: the open line of the text and the new line
are one line. -/
theorem scan_append_line {text line : List α} {c : α} (hne : line ≠ [])
    (hbreak : ∀ d ∈ line, L.isBreak d = false) (hjoin : ∀ d ∈ line, ∀ b, L.joins b d = false)
    (hc : L.isBreak c = true) :
    L.scan (text ++ (line ++ [c])) =
      ⟨(L.scan text).finished ++ [L.lastLine text ++ line], [], some c⟩ := by
  rw [scan, List.foldl_append, List.foldl_append, foldl_scanStep_line hne hbreak hjoin]
  simp [scanStep, hc, scan, lastLine]

/-- The lines of a text before its open line. -/
theorem lines_eq (text : List α) : L.lines text = (L.scan text).finished ++
    if L.lastLine text = [] then [] else [L.lastLine text] := by
  rw [lines, lastLine]
  split_ifs
  · simp
  · rfl

theorem lines_append_line {text line : List α} {c : α} (hne : line ≠ [])
    (hbreak : ∀ d ∈ line, L.isBreak d = false) (hjoin : ∀ d ∈ line, ∀ b, L.joins b d = false)
    (hc : L.isBreak c = true) :
    L.lines (text ++ (line ++ [c])) = (L.scan text).finished ++ [L.lastLine text ++ line] := by
  rw [lines, scan_append_line hne hbreak hjoin hc]
  rfl

end LineEnds

end DecisionFirewall.Lib
