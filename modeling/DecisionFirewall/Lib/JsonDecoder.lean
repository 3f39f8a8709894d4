import Mathlib

/-!
# Decoding JSON From the Left

The grammar of JSON texts, and a decoder that reads a text character by character with the
arrays and objects that it has opened on a stack. The decoder accepts every text of the
grammar (`accepts_of_text`). Which words are values and which characters a string may hold is
left to a dialect.

- §1 dialects and shapes
- §2 the grammar
- §3 the decoder
- §4 the decoder accepts the grammar
-/

namespace DecisionFirewall.Lib.JsonDecoder

/-! ## §1 Dialects and shapes -/

/-- What a decoder leaves open. -/
structure Dialect where
  /-- numbers and constants -/
  word : List Char → Bool
  /-- the characters that may stand in a string as they are -/
  raw : Char → Bool
  /-- the letters behind a backslash, apart from the one of a code unit -/
  escape : Char → Bool

def isSpace (c : Char) : Bool := c = ' ' || c = '\t' || c = '\n' || c = '\r'

/-- A character that belongs to the structure of a text. -/
def isMark (c : Char) : Bool :=
  c = '"' || c = '[' || c = ']' || c = '{' || c = '}' || c = ',' || c = ':'

def isWordChar (c : Char) : Bool := !isSpace c && !isMark c

def isHexDigit (c : Char) : Bool :=
  c.isDigit || ('a' ≤ c && c ≤ 'f') || ('A' ≤ c && c ≤ 'F')

/-- The arrays and objects of a text. -/
inductive Shape where
  | scalar
  | array (items : List Shape)
  | object (members : List Shape)

mutual

/-- How many arrays and objects are open at the innermost one. -/
def Shape.height : Shape → Nat
  | .scalar => 0
  | .array items => heights items + 1
  | .object members => heights members + 1

/-- The greatest height. -/
def heights : List Shape → Nat
  | [] => 0
  | t :: ts => max t.height (heights ts)

end

@[simp] theorem heights_nil : heights [] = 0 := by rw [heights]

@[simp] theorem heights_cons (t : Shape) (ts : List Shape) :
    heights (t :: ts) = max t.height (heights ts) := by rw [heights]

/-! ## §2 The grammar -/

/-- Whitespace. -/
def Space (cs : List Char) : Prop := ∀ c ∈ cs, isSpace c = true

/-- What stands between the marks of a string. -/
inductive Chars (d : Dialect) : List Char → Prop
  | nil : Chars d []
  | raw {c : Char} {cs : List Char} (h : d.raw c = true) (hquote : c ≠ '"') (hslash : c ≠ '\\')
      (rest : Chars d cs) : Chars d (c :: cs)
  | escape {c : Char} {cs : List Char} (h : d.escape c = true) (hunit : c ≠ 'u')
      (rest : Chars d cs) : Chars d ('\\' :: c :: cs)
  | unit {a b c e : Char} {cs : List Char}
      (h : ∀ x ∈ [a, b, c, e], isHexDigit x = true) (rest : Chars d cs) :
      Chars d ('\\' :: 'u' :: a :: b :: c :: e :: cs)

/-- A part of a text: a value, or what stands between the brackets of one. -/
inductive Part where
  | value
  | items
  | members

/-- What stands before the value of a member. -/
def label (a name b c : List Char) : List Char := a ++ '"' :: name ++ '"' :: b ++ ':' :: c

/-- The text spells the shapes. -/
inductive Spells (d : Dialect) : Part → List Shape → List Char → Prop
  | word {w : List Char} (hne : w ≠ []) (hchars : ∀ c ∈ w, isWordChar c = true)
      (h : d.word w = true) : Spells d .value [.scalar] w
  | string {cs : List Char} (h : Chars d cs) : Spells d .value [.scalar] ('"' :: cs ++ ['"'])
  | emptyArray {a : List Char} (ha : Space a) : Spells d .value [.array []] ('[' :: a ++ [']'])
  | array {ts : List Shape} {text : List Char} (h : Spells d .items ts text) :
      Spells d .value [.array ts] ('[' :: text ++ [']'])
  | emptyObject {a : List Char} (ha : Space a) : Spells d .value [.object []] ('{' :: a ++ ['}'])
  | object {ts : List Shape} {text : List Char} (h : Spells d .members ts text) :
      Spells d .value [.object ts] ('{' :: text ++ ['}'])
  | item {t : Shape} {a text b : List Char} (ha : Space a) (h : Spells d .value [t] text)
      (hb : Space b) : Spells d .items [t] (a ++ text ++ b)
  | items {t : Shape} {ts : List Shape} {a text b rest : List Char} (ha : Space a)
      (h : Spells d .value [t] text) (hb : Space b) (hrest : Spells d .items ts rest) :
      Spells d .items (t :: ts) (a ++ text ++ b ++ ',' :: rest)
  | member {t : Shape} {a name b c text e : List Char} (ha : Space a) (hname : Chars d name)
      (hb : Space b) (hc : Space c) (h : Spells d .value [t] text) (he : Space e) :
      Spells d .members [t] (label a name b c ++ text ++ e)
  | members {t : Shape} {ts : List Shape} {a name b c text e rest : List Char} (ha : Space a)
      (hname : Chars d name) (hb : Space b) (hc : Space c) (h : Spells d .value [t] text)
      (he : Space e) (hrest : Spells d .members ts rest) :
      Spells d .members (t :: ts) (label a name b c ++ text ++ e ++ ',' :: rest)

/-- A valid text. -/
def Text (d : Dialect) (t : Shape) (text : List Char) : Prop :=
  ∃ a body b, Space a ∧ Spells d .value [t] body ∧ Space b ∧ text = a ++ body ++ b

/-! ## §3 The decoder -/

/-- A container that is open. -/
inductive Frame where
  | array
  | object
  deriving DecidableEq, Repr

/-- Where in a string the decoder is. -/
inductive InString where
  | plain
  | escape
  /-- digits of a code unit are missing, this many behind the next one -/
  | unit (missing : Nat)
  deriving DecidableEq, Repr

/-- What the decoder waits for. -/
inductive Mode where
  /-- a value, or where an array may be empty its end -/
  | value (empty : Bool)
  /-- a name, or where an object may be empty its end -/
  | key (empty : Bool)
  | colon
  /-- a comma, an end, or the end of the text -/
  | next
  /-- the rest of a word -/
  | word (seen : List Char)
  /-- the rest of a string, which may be a name -/
  | string (name : Bool) (place : InString)
  deriving DecidableEq, Repr

/-- The state of the decoder. -/
structure State where
  opened : List Frame
  mode : Mode
  deriving DecidableEq, Repr

namespace State

def start : State := ⟨[], .value false⟩

/-- A character behind a value. -/
def behind (opened : List Frame) (c : Char) : Option State :=
  if isSpace c then some ⟨opened, .next⟩
  else match opened with
    | [] => none
    | .array :: rest =>
      if c = ',' then some ⟨opened, .value false⟩
      else if c = ']' then some ⟨rest, .next⟩
      else none
    | .object :: rest =>
      if c = ',' then some ⟨opened, .key false⟩
      else if c = '}' then some ⟨rest, .next⟩
      else none

/-- The next character; `none` is an error. -/
def step (d : Dialect) (s : State) (c : Char) : Option State :=
  match s.mode with
  | .value empty =>
    if isSpace c then some s
    else if c = '"' then some ⟨s.opened, .string false .plain⟩
    else if c = '[' then some ⟨.array :: s.opened, .value true⟩
    else if c = '{' then some ⟨.object :: s.opened, .key true⟩
    else if c = ']' ∧ empty = true then some ⟨s.opened.tail, .next⟩
    else if isMark c then none
    else some ⟨s.opened, .word [c]⟩
  | .key empty =>
    if isSpace c then some s
    else if c = '"' then some ⟨s.opened, .string true .plain⟩
    else if c = '}' ∧ empty = true then some ⟨s.opened.tail, .next⟩
    else none
  | .colon =>
    if isSpace c then some s
    else if c = ':' then some ⟨s.opened, .value false⟩
    else none
  | .next => behind s.opened c
  | .word seen =>
    if isWordChar c then some ⟨s.opened, .word (seen ++ [c])⟩
    else if d.word seen then behind s.opened c
    else none
  | .string name .plain =>
    if c = '"' then some ⟨s.opened, if name then .colon else .next⟩
    else if c = '\\' then some ⟨s.opened, .string name .escape⟩
    else if d.raw c then some s
    else none
  | .string name .escape =>
    if c = 'u' then some ⟨s.opened, .string name (.unit 3)⟩
    else if d.escape c then some ⟨s.opened, .string name .plain⟩
    else none
  | .string name (.unit missing) =>
    if isHexDigit c then
      some ⟨s.opened, .string name (match missing with
        | 0 => .plain
        | n + 1 => .unit n)⟩
    else none

/-- Reading a text up to the first error. -/
def run (d : Dialect) (s : State) : List Char → Option State
  | [] => some s
  | c :: cs => (s.step d c).bind fun s => s.run d cs

/-- A value has been read, maybe up to a word that goes on. -/
def Behind (d : Dialect) (opened : List Frame) (s : State) : Prop :=
  s.opened = opened ∧ (s.mode = .next ∨ ∃ seen, s.mode = .word seen ∧ d.word seen = true)

/-- The text may end here. -/
def Accepting (d : Dialect) (s : State) : Prop := Behind d [] s

/-- The decoder gets from one state to the other. -/
def Reads (d : Dialect) (s : State) (text : List Char) (s' : State) : Prop :=
  s.run d text = some s'

/-! ## §4 The decoder accepts the grammar -/

section Accepts

variable {d : Dialect} {s s' s'' : State} {opened : List Frame} {empty : Bool}
variable {text text' a w : List Char} {c : Char}

theorem Reads.nil : Reads d s [] s := rfl

theorem Reads.one (h : s.step d c = some s') : Reads d s [c] s' := by
  simp [Reads, run, h]

theorem Reads.cons (h : s.step d c = some s') (hrest : Reads d s' text s'') :
    Reads d s (c :: text) s'' := by
  unfold Reads run
  rw [h]
  exact hrest

/-- One text behind the other. -/
theorem Reads.append (h : Reads d s text s') (h' : Reads d s' text' s'') :
    Reads d s (text ++ text') s'' := by
  induction text generalizing s with
  | nil =>
    obtain rfl := Option.some.inj h
    exact h'
  | cons c text ih =>
    unfold Reads run at h
    cases hstep : s.step d c with
    | none =>
      rw [hstep] at h
      cases h
    | some t =>
      rw [hstep] at h
      exact Reads.cons hstep (ih h)

/-- Whitespace is passed over where the decoder stays at it. -/
theorem Reads.space (hstay : ∀ c, isSpace c = true → s.step d c = some s) (ha : Space a) :
    Reads d s a s := by
  induction a with
  | nil => exact Reads.nil
  | cons c a ih =>
    exact Reads.cons (hstay c (ha c List.mem_cons_self))
      (ih fun x hx => ha x (List.mem_cons_of_mem _ hx))

theorem reads_space_value (ha : Space a) :
    Reads d ⟨opened, .value empty⟩ a ⟨opened, .value empty⟩ :=
  Reads.space (fun c hc => by simp [step, hc]) ha

theorem reads_space_key (ha : Space a) : Reads d ⟨opened, .key empty⟩ a ⟨opened, .key empty⟩ :=
  Reads.space (fun c hc => by simp [step, hc]) ha

theorem reads_space_colon (ha : Space a) : Reads d ⟨opened, .colon⟩ a ⟨opened, .colon⟩ :=
  Reads.space (fun c hc => by simp [step, hc]) ha

/-- A character that ends a word is read as one behind the value. -/
theorem Behind.step (h : Behind d opened s) (hc : isWordChar c = false) :
    s.step d c = behind opened c := by
  obtain ⟨rfl, hmode | ⟨seen, hmode, hseen⟩⟩ := h
  · simp [State.step, hmode]
  · simp [State.step, hmode, hc, hseen]

theorem Behind.space (h : Behind d opened s) (ha : Space a) :
    ∃ s', Reads d s a s' ∧ Behind d opened s' := by
  cases a with
  | nil => exact ⟨s, Reads.nil, h⟩
  | cons c a =>
    have hc : isSpace c = true := ha c List.mem_cons_self
    have hstep : s.step d c = some ⟨opened, .next⟩ := by
      rw [h.step (by simp [isWordChar, hc])]
      simp [behind, hc]
    have hstay : Reads d ⟨opened, .next⟩ a ⟨opened, .next⟩ :=
      Reads.space (fun x hx => by simp [State.step, behind, hx])
        fun x hx => ha x (List.mem_cons_of_mem _ hx)
    exact ⟨_, Reads.cons hstep hstay, rfl, .inl rfl⟩

theorem reads_chars {name : Bool} (h : Chars d text) :
    Reads d ⟨opened, .string name .plain⟩ text ⟨opened, .string name .plain⟩ := by
  have hslash : State.step d ⟨opened, .string name .plain⟩ '\\' =
      some ⟨opened, .string name .escape⟩ := by simp [State.step]
  -- induction on the content, one escape after the other
  induction h with
  | nil => exact Reads.nil
  | raw hraw hquote hnoslash _ ih =>
    exact Reads.cons (by simp [State.step, hquote, hnoslash, hraw]) ih
  | escape hescape hunit _ ih =>
    exact Reads.cons hslash (Reads.cons (by simp [State.step, hunit, hescape]) ih)
  | unit hhex _ ih =>
    have hunit : State.step d ⟨opened, .string name .escape⟩ 'u' =
        some ⟨opened, .string name (.unit 3)⟩ := by simp [State.step]
    have hdigit (n : ℕ) (c : Char) (hc : isHexDigit c = true) :
        State.step d ⟨opened, .string name (.unit (n + 1))⟩ c =
          some ⟨opened, .string name (.unit n)⟩ := by simp [State.step, hc]
    refine Reads.cons hslash (Reads.cons hunit (Reads.cons (hdigit 2 _ ?_)
      (Reads.cons (hdigit 1 _ ?_) (Reads.cons (hdigit 0 _ ?_) (Reads.cons ?_ ih)))))
    all_goals simp [State.step, hhex]

theorem reads_word {seen : List Char} (hw : ∀ c ∈ w, isWordChar c = true) :
    Reads d ⟨opened, .word seen⟩ w ⟨opened, .word (seen ++ w)⟩ := by
  induction w generalizing seen with
  | nil =>
    rw [List.append_nil]
    exact Reads.nil
  | cons c w ih =>
    have hrest := @ih (seen ++ [c]) fun x hx => hw x (List.mem_cons_of_mem _ hx)
    rw [List.append_assoc, List.singleton_append] at hrest
    exact Reads.cons (by simp [State.step, hw c List.mem_cons_self]) hrest

/-- Where a part of a text begins, and the containers around it. -/
def within (opened : List Frame) : Part → List Frame
  | .value => opened
  | .items => .array :: opened
  | .members => .object :: opened

def entry (opened : List Frame) (empty : Bool) : Part → State
  | .value => ⟨opened, .value empty⟩
  | .items => ⟨.array :: opened, .value empty⟩
  | .members => ⟨.object :: opened, .key empty⟩

/-- What stands before the value of a member is passed over. -/
theorem reads_label {name b c : List Char} (ha : Space a) (hname : Chars d name) (hb : Space b)
    (hc : Space c) :
    Reads d ⟨opened, .key empty⟩ (label a name b c) ⟨opened, .value false⟩ := by
  have hquote : Reads d ⟨opened, .key empty⟩ ['"'] ⟨opened, .string true .plain⟩ :=
    Reads.one (by simp [step, isSpace])
  have hend : Reads d ⟨opened, .string true .plain⟩ ['"'] ⟨opened, .colon⟩ :=
    Reads.one (by simp [step])
  have hcolon : Reads d ⟨opened, .colon⟩ [':'] ⟨opened, .value false⟩ :=
    Reads.one (by simp [step, isSpace])
  have h := (((reads_space_key ha).append hquote).append (reads_chars hname)).append hend
  have h' := ((h.append (reads_space_colon hb)).append hcolon).append (reads_space_value hc)
  simpa [label] using h'

/-- The decoder reads every part of a text. -/
theorem reads_spells {part : Part} {ts : List Shape} (h : Spells d part ts text) :
    ∃ s, Reads d (entry opened empty part) text s ∧ Behind d (within opened part) s := by
  -- induction on the derivation; the containers around a part are those at its beginning
  induction h generalizing opened empty with
  | @word w hne hchars hword =>
    cases w with
    | nil => exact absurd rfl hne
    | cons c w =>
      have hc : isWordChar c = true := hchars c List.mem_cons_self
      have hstep : (entry opened empty .value).step d c = some ⟨opened, .word [c]⟩ := by
        simp only [isWordChar, isMark, Bool.and_eq_true, Bool.not_eq_true', Bool.or_eq_false_iff,
          decide_eq_false_iff_not] at hc
        simp [entry, step, isMark, hc]
      refine ⟨_, Reads.cons hstep (reads_word fun x hx => hchars x (List.mem_cons_of_mem _ hx)),
        rfl, .inr ⟨_, rfl, hword⟩⟩
  | string hchars =>
    have hquote : Reads d (entry opened empty .value) ['"'] ⟨opened, .string false .plain⟩ :=
      Reads.one (by simp [entry, step, isSpace])
    have hend : Reads d ⟨opened, .string false .plain⟩ ['"'] ⟨opened, .next⟩ :=
      Reads.one (by simp [step])
    exact ⟨_, (hquote.append (reads_chars hchars)).append hend, rfl, .inl rfl⟩
  | emptyArray ha =>
    have hbracket : Reads d (entry opened empty .value) ['['] ⟨.array :: opened, .value true⟩ :=
      Reads.one (by simp [entry, step, isSpace])
    have hend : Reads d ⟨.array :: opened, .value true⟩ [']'] ⟨opened, .next⟩ :=
      Reads.one (by simp [step, isSpace])
    exact ⟨_, (hbracket.append (reads_space_value ha)).append hend, rfl, .inl rfl⟩
  | array _ ih =>
    have hbracket : Reads d (entry opened empty .value) ['['] (entry opened true .items) :=
      Reads.one (by simp [entry, step, isSpace])
    obtain ⟨s, hitems, hs⟩ := @ih opened true
    have hend : Reads d s [']'] ⟨opened, .next⟩ :=
      Reads.one (by rw [hs.step (by simp [isWordChar, isMark])]; simp [within, behind, isSpace])
    exact ⟨_, (hbracket.append hitems).append hend, rfl, .inl rfl⟩
  | emptyObject ha =>
    have hbracket : Reads d (entry opened empty .value) ['{'] ⟨.object :: opened, .key true⟩ :=
      Reads.one (by simp [entry, step, isSpace])
    have hend : Reads d ⟨.object :: opened, .key true⟩ ['}'] ⟨opened, .next⟩ :=
      Reads.one (by simp [step, isSpace])
    exact ⟨_, (hbracket.append (reads_space_key ha)).append hend, rfl, .inl rfl⟩
  | object _ ih =>
    have hbracket : Reads d (entry opened empty .value) ['{'] (entry opened true .members) :=
      Reads.one (by simp [entry, step, isSpace])
    obtain ⟨s, hmembers, hs⟩ := @ih opened true
    have hend : Reads d s ['}'] ⟨opened, .next⟩ :=
      Reads.one (by rw [hs.step (by simp [isWordChar, isMark])]; simp [within, behind, isSpace])
    exact ⟨_, (hbracket.append hmembers).append hend, rfl, .inl rfl⟩
  | item ha _ hb ih =>
    obtain ⟨s, hvalue, hs⟩ := @ih (.array :: opened) empty
    obtain ⟨s', hspace, hs'⟩ := hs.space hb
    exact ⟨s', ((reads_space_value ha).append hvalue).append hspace, hs'⟩
  | items ha _ hb _ ih ihrest =>
    obtain ⟨s, hvalue, hs⟩ := @ih (.array :: opened) empty
    obtain ⟨s', hspace, hs'⟩ := hs.space hb
    have hcomma : s'.step d ',' = some (entry opened false .items) := by
      rw [hs'.step (by simp [isWordChar, isMark])]
      simp [within, behind, isSpace, entry]
    obtain ⟨s'', hrest, hs''⟩ := @ihrest opened false
    exact ⟨s'', (((reads_space_value ha).append hvalue).append hspace).append
      (Reads.cons hcomma hrest), hs''⟩
  | member ha hname hb hc _ he ih =>
    obtain ⟨s, hvalue, hs⟩ := @ih (.object :: opened) false
    obtain ⟨s', hspace, hs'⟩ := hs.space he
    exact ⟨s', ((reads_label ha hname hb hc).append hvalue).append hspace, hs'⟩
  | members ha hname hb hc _ he _ ih ihrest =>
    obtain ⟨s, hvalue, hs⟩ := @ih (.object :: opened) false
    obtain ⟨s', hspace, hs'⟩ := hs.space he
    have hcomma : s'.step d ',' = some (entry opened false .members) := by
      rw [hs'.step (by simp [isWordChar, isMark])]
      simp [within, behind, isSpace, entry]
    obtain ⟨s'', hrest, hs''⟩ := @ihrest opened false
    exact ⟨s'', (((reads_label ha hname hb hc).append hvalue).append hspace).append
      (Reads.cons hcomma hrest), hs''⟩

end Accepts

end State

/-- The decoder accepts every valid text. -/
theorem accepts_of_text {d : Dialect} {t : Shape} {text : List Char} (h : Text d t text) :
    ∃ s, State.start.run d text = some s ∧ s.Accepting d := by
  obtain ⟨a, body, b, ha, hbody, hb, rfl⟩ := h
  obtain ⟨s, hvalue, hs⟩ : ∃ s, State.Reads d (State.entry [] false .value) body s ∧
      State.Behind d (State.within [] .value) s := State.reads_spells hbody
  obtain ⟨s', hspace, hs'⟩ := hs.space hb
  exact ⟨s', ((State.reads_space_value ha).append hvalue).append hspace, hs'⟩

end DecisionFirewall.Lib.JsonDecoder
