import DecisionFirewall.Audit.Chain
import DecisionFirewall.Lib.Lines

/-!
# The Audit Logger

`AuditLogger` of `adf_poc/audit.py`: a list of rows in memory, or a file with one row a line.
A row is chained to the one before it and written behind whatever the file holds.

- §1 the store and its rows
- §2 the logger
- §3 what a row is read back as
- §4 one append
- §5 every append

The checks of the file's path and identity are ways in which an append ends before or after
its write. A row that `json.loads` reads with a number that is not finite has no digest, and
the validator raises; here the reader already does.
-/

namespace DecisionFirewall.Audit

open Lib

/-! ## §1 The store and its rows -/

/-- The characters that `str.strip()` removes. -/
def isBlank (c : Char) : Bool :=
  let n := c.toNat
  (9 ≤ n && n ≤ 13) || (28 ≤ n && n ≤ 32) || n = 0x85 || n = 0xa0 || n = 0x1680 ||
    (0x2000 ≤ n && n ≤ 0x200a) || n = 0x2028 || n = 0x2029 || n = 0x202f || n = 0x205f || n = 0x3000

/-- The line ends of `str.splitlines()`. -/
def splitlines : LineEnds Char where
  isBreak c :=
    let n := c.toNat
    (10 ≤ n && n ≤ 13) || (28 ≤ n && n ≤ 30) || n = 0x85 || n = 0x2028 || n = 0x2029
  joins b c := b = '\r' && c = '\n'

variable {lib : PyLibrary}

/-- `_decode_audit_row(line)`; `none` is an exception. -/
def decodeAuditRow (lib : PyLibrary) (line : List Char) : Option (AuditRow lib) :=
  match h : strictJsonLoads lib.toJsonLibrary (String.ofList line) with
  | some (.obj fields) =>
    some ⟨PyData.ofJsonFields fields,
      PyData.wellFormed_ofJson (.obj fields) (Json.readable_of_strictJsonLoads h)⟩
  | _ => none

/-- Where the rows are: `self._rows`, or the text of the file at `self.path`. -/
inductive Store (lib : PyLibrary) where
  | memory (rows : List (AuditRow lib))
  | file (text : List Char)

/-- The lines that hold rows. -/
def rowLines (text : List Char) : List (List Char) :=
  (splitlines.lines text).filter fun line => !line.all isBlank

/-- `read_all()`. -/
def Store.readAll : Store lib → Option (List (AuditRow lib))
  | .memory rows => some rows
  | .file text => (rowLines text).mapM (decodeAuditRow lib)

/-! ## §2 The logger -/

structure AuditLogger (lib : PyLibrary) where
  previousHash : String
  sequence : Int
  store : Store lib

/-- `int(v)`. -/
def intOf (lib : PyLibrary) : PyData → Option Int
  | .bool b => some (if b then 1 else 0)
  | .int n => some n
  | .float repr =>
    let x := lib.floatValue repr
    some (if 0 ≤ x then x.floor else x.ceil)
  | .str s => lib.intOfText s
  | _ => none

variable (rt : Runtime)

/-- `AuditLogger(path)` of a file with this text; a file that does not exist has none. -/
def openLog (lib : PyLibrary) (text : List Char) : Option (AuditLogger lib) :=
  if text = [] then some ⟨zeros, 0, .file []⟩
  else (Store.file text).readAll.bind fun (rows : List (AuditRow lib)) =>
    (verifyRows rt rows).bind fun errors =>
      if errors = [] then rows.getLast?.bind fun last =>
        (intOf lib (last.get "sequence")).map fun n =>
          ⟨str lib (last.get "record_hash"), n + 1, .file text⟩
      else none

/-- A value that the caller hands over. -/
def Payload (lib : PyLibrary) : Type := { v : PyData // v.WellFormed lib }

/-- The ways in which an append to a file raises. -/
inductive Fault where
  /-- the file cannot be opened, or is not the bound one -/
  | beforeWrite
  /-- the write stops after some characters -/
  | duringWrite (written : Nat)
  /-- `os.fsync` fails -/
  | fsync
  /-- the check behind the write finds another file -/
  | afterWrite

/-- The row without its digest. -/
def bodyFields (l : AuditLogger lib) (recordedAt recordType : String) (payload : PyData) :
    List (PyKey × PyData) :=
  [(.str "sequence", .int l.sequence),
    (.str "recorded_at", .str recordedAt),
    (.str "record_type", .str recordType),
    (.str "previous_hash", .str l.previousHash),
    (.str "payload", payload)]

theorem wellFormed_bodyFields (l : AuditLogger lib) (recordedAt recordType : String)
    (payload : Payload lib) :
    (PyData.dict (bodyFields l recordedAt recordType payload.1)).WellFormed lib := by
  constructor
  · simp [bodyFields, PyKey.eq, PyKey.number]
  · simp [bodyFields, PyData.WellFormedFields, PyData.WellFormed, PyKey.word, Json.Readable,
      payload.2]

theorem wellFormed_signedFields (l : AuditLogger lib) (recordedAt recordType hash : String)
    (payload : Payload lib) :
    (PyData.dict (bodyFields l recordedAt recordType payload.1 ++
      [(.str "record_hash", .str hash)])).WellFormed lib := by
  constructor
  · simp [bodyFields, PyKey.eq, PyKey.number]
  · simp [bodyFields, PyData.WellFormedFields, PyData.WellFormed, PyKey.word, Json.Readable,
      payload.2]

/-- The row with its digest. -/
def signedRow (l : AuditLogger lib) (recordedAt recordType hash : String) (payload : Payload lib) :
    AuditRow lib :=
  ⟨bodyFields l recordedAt recordType payload.1 ++ [(.str "record_hash", .str hash)],
    wellFormed_signedFields l recordedAt recordType hash payload⟩

/-- `append(record_type, payload)`: what it returns, if it does, and the logger behind it. -/
def append (l : AuditLogger lib) (recordedAt recordType : String) (payload : Payload lib)
    (fault : Option Fault) : Option (AuditRow lib) × AuditLogger lib :=
  match (PyData.dict (bodyFields l recordedAt recordType payload.1)).canonicalJson lib with
  | none => (none, l)
  | some text =>
    let hash := rt.sha256 text
    let row := signedRow l recordedAt recordType hash payload
    match row.canonicalJson with
    | none => (none, l)
    | some line =>
      let advanced (store : Store lib) : AuditLogger lib := ⟨hash, l.sequence + 1, store⟩
      match l.store with
      | .memory rows => (decodeAuditRow lib line.toList, advanced (.memory (rows ++ [row])))
      | .file text =>
        let written := line.toList ++ ['\n']
        match fault with
        | none => (decodeAuditRow lib line.toList, advanced (.file (text ++ written)))
        | some .beforeWrite => (none, l)
        | some (.duringWrite n) => (none, { l with store := .file (text ++ written.take n) })
        | some .fsync => (none, advanced (.file (text ++ written)))
        | some .afterWrite => (none, { l with store := .file (text ++ written) })

/-! ## §3 What a row is read back as -/

variable {rt}

/-- A row in memory, or as it is read of its line. -/
theorem isLink_signedRow {l : AuditLogger lib} {recordedAt recordType : String}
    {payload : Payload lib} {text : String}
    (h : (PyData.dict (bodyFields l recordedAt recordType payload.1)).canonicalJson lib = some text)
    (hash : String) :
    IsLink (signedRow l recordedAt recordType hash payload) ⟨l.previousHash, text, hash⟩ where
  prev := rfl
  body := h
  claimed := rfl

/-- The row that is read of the line of a row. -/
def readRow (fields : List (String × Json))
    (h : (Json.obj fields).Readable lib.toJsonLibrary) : AuditRow lib :=
  ⟨PyData.ofJsonFields fields, PyData.wellFormed_ofJson (.obj fields) h⟩

theorem decodeAuditRow_of_loads {line : List Char} {fields : List (String × Json)}
    (h : strictJsonLoads lib.toJsonLibrary (String.ofList line) = some (.obj fields)) :
    decodeAuditRow lib line = some (readRow fields (Json.readable_of_strictJsonLoads h)) := by
  unfold decodeAuditRow
  split
  · next fields' h' =>
    have hfields : fields' = fields := Json.obj.inj (Option.some.inj (h'.symm.trans h))
    subst hfields
    rfl
  · next hnone => exact absurd h (hnone fields)

theorem readRow_get {fields : List (String × Json)}
    {h : (Json.obj fields).Readable lib.toJsonLibrary} {name : String} {j : Json}
    (hmem : (name, j) ∈ fields) : (readRow fields h).get name = PyData.ofJson j := by
  have hin : (PyKey.str name, PyData.ofJson j) ∈ (readRow fields h).fields := by
    show _ ∈ PyData.ofJsonFields fields
    rw [PyData.ofJsonFields_eq_map]
    exact List.mem_map.mpr ⟨_, hmem, rfl⟩
  rw [AuditRow.get, (lookup_eq_some_iff (readRow fields h).wellFormed).mpr hin]
  rfl

/-- A row that has been read is a link of its own: its digest is compared with the digest of
the canonical text of what was read. -/
theorem isLink_readRow {row : AuditRow lib} {link : Link String String}
    {js fs : List (String × Json)} (h : IsLink row link) (hw : Written row link js fs)
    (hfs : (Json.obj fs).Readable lib.toJsonLibrary) :
    IsLink (readRow fs hfs) ⟨link.prev, DecisionFirewall.canonicalJson (.obj js), link.claimed⟩ where
  prev := by
    have hmem : ("previous_hash", Json.str link.prev) ∈ fs :=
      hw.perm.mem_iff.mpr (List.mem_cons_of_mem _ (hw.members _ _ _ h.prev_mem rfl))
    exact readRow_get hmem
  claimed := by
    have hmem : ("record_hash", Json.str link.claimed) ∈ fs := hw.perm.mem_iff.mpr (by simp)
    exact readRow_get hmem
  body := by
    have hrest : (readRow fs hfs).rest =
        PyData.ofJsonFields (fs.filter fun f => f.1 ≠ "record_hash") := by
      show (PyData.ofJsonFields fs).filter _ = _
      rw [PyData.ofJsonFields_eq_map, PyData.ofJsonFields_eq_map, List.filter_map]
      congr 1
      apply List.filter_congr
      intro f _
      simp
    have hperm : (fs.filter fun f => f.1 ≠ "record_hash").Perm js := by
      refine (hw.perm.filter _).trans ?_
      rw [List.filter_cons_of_neg (by simp), List.filter_eq_self.mpr]
      intro f hf
      rw [decide_eq_true_eq]
      intro hname
      have hnodup := (hw.perm.map Prod.fst).nodup_iff.mp hw.nodup
      have hmem : f.1 ∈ js.map Prod.fst := List.mem_map_of_mem hf
      rw [hname] at hmem
      exact (List.nodup_cons.mp hnodup).1 hmem
    have hnodup : ((fs.filter fun f => f.1 ≠ "record_hash").map Prod.fst).Nodup :=
      (hperm.map Prod.fst).nodup_iff.mpr hw.nodup_rest
    have hdumps := @PyData.dumps_ofJson lib
      (.obj (fs.filter fun f => f.1 ≠ "record_hash"))
    rw [Json.sorted_eq_of_perm hperm hnodup] at hdumps
    rw [AuditRow.hashedText, hrest, PyData.canonicalJson,
      show PyData.dict (PyData.ofJsonFields _) = PyData.ofJson (.obj _) from rfl, hdumps,
      Option.map_some, DecisionFirewall.canonicalJson, Json.render_eq_text]

/-! ## §4 The line behind the text -/

/-- Blanks before a text are skipped. -/
theorem strictJsonLoads_space_text {front : List Char} (hfront : front.all Json.isSpace = true)
    {v : Json} (h : v.Readable lib.toJsonLibrary) :
    strictJsonLoads lib.toJsonLibrary (String.ofList (front ++ v.text)) = some v := by
  have hskip : Json.skipSpace (front ++ v.text) = v.text := by
    have := Json.skipSpace_text h.numbersOk []
    rw [List.append_nil] at this
    rw [Json.skipSpace, List.dropWhile_append_of_pos (List.all_eq_true.mp hfront)]
    exact this
  have hfuel : Json.cost v ≤ (front ++ v.text).length + 1 := by
    have := Json.cost_le v h.numbersOk
    rw [List.length_append]
    omega
  have hvalue := Json.readValue_text v h _ hfuel [] Reading.delimited_nil
  rw [List.append_nil] at hvalue
  simp only [strictJsonLoads, String.toList_ofList, hskip, hvalue, Option.bind_some]
  rfl

/-- Values begin with another character than a blank. -/
theorem readValue_blank {c : Char} (hc : isBlank c = true) (rest : List Char) (fuel : Nat) :
    Json.readValue lib.toJsonLibrary fuel (c :: rest) = none := by
  have hcode : c.toNat ≤ 32 ∨ 126 < c.toNat := by
    simp only [isBlank, Bool.or_eq_true, Bool.and_eq_true, decide_eq_true_eq] at hc
    omega
  have hne : ∀ d : Char, 32 < d.toNat → d.toNat ≤ 126 → c ≠ d := by
    rintro d hlow hhigh rfl
    omega
  have hword : isWordChar c = false := by
    simp only [isWordChar, Bool.or_eq_false_iff, decide_eq_false_iff_not]
    refine ⟨⟨⟨?_, hne _ (by decide) (by decide)⟩, hne _ (by decide) (by decide)⟩,
      hne _ (by decide) (by decide)⟩
    have hval : c.val.toNat = c.toNat := rfl
    simp only [Char.isAlphanum, Char.isAlpha, Char.isUpper, Char.isLower, Char.isDigit,
      Bool.or_eq_false_iff, Bool.and_eq_false_iff, decide_eq_false_iff_not, ge_iff_le,
      UInt32.le_iff_toNat_le, hval]
    refine ⟨⟨?_, ?_⟩, ?_⟩ <;> simp <;> omega
  cases fuel with
  | zero => rfl
  | succ fuel =>
    have hquote : (c :: rest).head? ≠ some '"' := by simpa using hne '"' (by decide) (by decide)
    have hbracket : (c :: rest).head? ≠ some '[' := by simpa using hne '[' (by decide) (by decide)
    have hbrace : (c :: rest).head? ≠ some '{' := by
      simpa using hne '{' (by decide) (by decide)
    rw [Json.readValue, if_neg hquote, if_neg hbracket, if_neg hbrace, Json.readWord,
      List.takeWhile_cons_of_neg (by simp [hword])]
    rfl

/-- Other blanks are not. -/
theorem strictJsonLoads_blank {front line : List Char} (hblank : front.all isBlank = true)
    (hfront : front.all Json.isSpace = false) :
    strictJsonLoads lib.toJsonLibrary (String.ofList (front ++ line)) = none := by
  have hne : front.dropWhile Json.isSpace ≠ [] := by
    intro hnil
    rw [List.dropWhile_eq_nil_iff] at hnil
    rw [List.all_eq_true.mpr hnil] at hfront
    cases hfront
  obtain ⟨c, rest, hdrop⟩ := List.exists_cons_of_ne_nil hne
  have hc : isBlank c = true := by
    have hsuffix := List.dropWhile_suffix (l := front) Json.isSpace
    rw [hdrop] at hsuffix
    exact List.all_eq_true.mp hblank c (hsuffix.subset (by simp))
  have hskip : Json.skipSpace (front ++ line) = c :: (rest ++ line) := by
    rw [Json.skipSpace, List.dropWhile_append, hdrop]
    rfl
  rw [strictJsonLoads, String.toList_ofList, hskip, readValue_blank hc]
  rfl

theorem isPrintable_not_blank {c : Char} (h : Json.IsPrintable c) (hne : c ≠ ' ') :
    isBlank c = false := by
  obtain ⟨hlow, hhigh⟩ := h
  have hspace : c.toNat ≠ 32 := fun heq => hne (Json.eq_of_toNat heq)
  simp only [isBlank, Bool.or_eq_false_iff, Bool.and_eq_false_iff, decide_eq_false_iff_not]
  omega

theorem isPrintable_not_break {c : Char} (h : Json.IsPrintable c) :
    splitlines.isBreak c = false := by
  obtain ⟨hlow, hhigh⟩ := h
  simp only [splitlines, Bool.or_eq_false_iff, Bool.and_eq_false_iff, decide_eq_false_iff_not]
  omega

theorem isPrintable_not_join {c : Char} (h : Json.IsPrintable c) (b : Char) :
    splitlines.joins b c = false := by
  have hne : c ≠ '\n' := by
    rintro rfl
    exact absurd h.1 (by decide)
  simp [splitlines, hne]

theorem rowLines_eq (text : List Char) :
    rowLines text = ((splitlines.scan text).finished.filter fun line => !line.all isBlank) ++
      if (splitlines.lastLine text).all isBlank then [] else [splitlines.lastLine text] := by
  rw [rowLines, LineEnds.lines_eq, List.filter_append]
  congr 1
  by_cases hnil : splitlines.lastLine text = []
  · simp [hnil]
  · rw [if_neg hnil, List.filter_singleton]
    cases (splitlines.lastLine text).all isBlank <;> rfl

/-- The line of an object, written behind a text. -/
theorem rowLines_append (text : List Char) {fields : List (String × Json)}
    (h : (Json.obj fields).NumbersOk) :
    rowLines (text ++ ((Json.obj fields).text ++ ['\n'])) =
      ((splitlines.scan text).finished.filter fun line => !line.all isBlank) ++
        [splitlines.lastLine text ++ (Json.obj fields).text] := by
  have hprintable := Json.isPrintable_text _ h
  have hbrace : '{' ∈ (Json.obj fields).text := by simp [Json.text]
  rw [rowLines, LineEnds.lines_append_line (List.ne_nil_of_mem hbrace)
    (fun c hc => isPrintable_not_break (hprintable c hc))
    (fun c hc => isPrintable_not_join (hprintable c hc)) (by decide), List.filter_append,
    List.filter_singleton]
  have hnot : (splitlines.lastLine text ++ (Json.obj fields).text).all isBlank = false := by
    rw [List.all_eq_false]
    exact ⟨'{', by simp [hbrace], by decide⟩
  rw [hnot]
  rfl

theorem mapM_append_singleton {α β : Type} (f : α → Option β) (xs : List α) (x : α) (ys : List β)
    (y : β) : (xs ++ [x]).mapM f = some (ys ++ [y]) ↔ xs.mapM f = some ys ∧ f x = some y := by
  rw [List.mapM_append]
  cases hxs : xs.mapM f with
  | none => simp
  | some zs =>
    cases hx : f x with
    | none => simp [hx]
    | some z => simp [hx]

/-- A row behind the rows of a file: it stands on a line of its own when nothing but blanks of
JSON precede it there. -/
theorem readAll_append {text : List Char} {rows : List (AuditRow lib)}
    (h : (Store.file text).readAll = some rows) {fields : List (String × Json)}
    (hfields : (Json.obj fields).Readable lib.toJsonLibrary) (row : AuditRow lib) :
    (Store.file (text ++ ((Json.obj fields).text ++ ['\n']))).readAll = some (rows ++ [row]) ↔
      row = readRow fields hfields ∧ (splitlines.lastLine text).all Json.isSpace = true := by
  have hblankOfSpace : ∀ c, Json.isSpace c = true → isBlank c = true := by
    intro c hc
    simp only [Json.isSpace, Bool.or_eq_true, decide_eq_true_eq] at hc
    rcases hc with ((rfl | rfl) | rfl) | rfl <;> decide
  simp only [Store.readAll] at h ⊢
  rw [rowLines_append text hfields.numbersOk, mapM_append_singleton]
  rw [rowLines_eq] at h
  constructor
  · rintro ⟨hbefore, hrow⟩
    have hblank : (splitlines.lastLine text).all isBlank = true := by
      by_contra hnot
      -- the open line held a row, and the new line took its place
      rw [if_neg hnot, List.mapM_append, hbefore] at h
      obtain ⟨ys, hys, hlength⟩ := Option.bind_eq_some_iff.mp h
      obtain ⟨zs, hzs, hpure⟩ := Option.bind_eq_some_iff.mp hlength
      cases hys
      cases hdecode : decodeAuditRow lib (splitlines.lastLine text) with
      | none => simp [hdecode] at hzs
      | some y =>
        have hone : zs = [y] := by simpa [hdecode, eq_comm] using hzs
        have := congrArg List.length (Option.some.inj hpure)
        simp [hone] at this
    cases hspace : (splitlines.lastLine text).all Json.isSpace with
    | true =>
      rw [decodeAuditRow_of_loads (strictJsonLoads_space_text hspace hfields)] at hrow
      exact ⟨(Option.some.inj hrow).symm, rfl⟩
    | false =>
      have hnone := @strictJsonLoads_blank lib _ (Json.obj fields).text hblank hspace
      unfold decodeAuditRow at hrow
      split at hrow
      · next _ hsome =>
        rw [hnone] at hsome
        cases hsome
      · cases hrow
  · rintro ⟨rfl, hspace⟩
    have hblank : (splitlines.lastLine text).all isBlank = true :=
      List.all_eq_true.mpr fun c hc => hblankOfSpace c (List.all_eq_true.mp hspace c hc)
    rw [if_pos hblank, List.append_nil] at h
    exact ⟨h, decodeAuditRow_of_loads (strictJsonLoads_space_text hspace hfields)⟩

/-! ## §5 Every append -/

/-- The logger stands behind the rows: it will continue their last digest under the next
number. -/
structure InSync (l : AuditLogger lib) (rows : List (AuditRow lib)) : Prop where
  previousHash : l.previousHash = tipOf rows
  sequence : l.sequence = rows.length

/-- The store keeps a row with this payload as it is. -/
def Store.Takes : Store lib → PyData → Prop
  | .memory _, payload => payload.Plain
  | .file text, payload =>
    payload.KeysInOrder lib ∧ (splitlines.lastLine text).all Json.isSpace = true

/-- The log is accepted, and its rows are the rows of before and then `row`. -/
def Extended (rt : Runtime) (l : AuditLogger lib) (rows : List (AuditRow lib))
    (row : AuditRow lib) : Prop :=
  ∃ row', l.store.readAll = some (rows ++ [row']) ∧ row'.eq row = true ∧
    Accepted rt (rows ++ [row'])

/-- The row's text and the text of the row as it is read back do not collide. -/
def BodyNoCollision (rt : Runtime) (l : AuditLogger lib) (recordedAt recordType : String)
    (payload : Payload lib) : Prop :=
  ∀ j, (PyData.dict (bodyFields l recordedAt recordType payload.1)).dumps lib = some j →
    rt.sha256 (String.ofList j.text) = rt.sha256 (DecisionFirewall.canonicalJson j) →
      String.ofList j.text = DecisionFirewall.canonicalJson j

theorem keysInOrder_body (l : AuditLogger lib) (recordedAt recordType : String)
    (payload : PyData) :
    (PyData.dict (bodyFields l recordedAt recordType payload)).KeysInOrder lib ↔
      payload.KeysInOrder lib := by
  have hkeys : ∀ k ∈ (bodyFields l recordedAt recordType payload).map Prod.fst,
      ∀ k' ∈ (bodyFields l recordedAt recordType payload).map Prod.fst,
        k.le lib k' = true → k.text ≤ k'.text := by
    have hstr : ∀ k ∈ (bodyFields l recordedAt recordType payload).map Prod.fst,
        k.isStr = true := by
      simp [bodyFields, PyKey.isStr]
    intro k hk k' hk' hle
    rw [PyKey.le_of_isStr (hstr k hk) (hstr k' hk')] at hle
    exact of_decide_eq_true hle
  rw [PyData.KeysInOrder, and_iff_right hkeys]
  simp [bodyFields, PyData.KeysInOrderFields, PyData.KeysInOrder]

theorem plain_signedRow (l : AuditLogger lib) (recordedAt recordType hash : String)
    (payload : Payload lib) :
    (signedRow l recordedAt recordType hash payload).Plain ↔ payload.1.Plain := by
  simp [AuditRow.Plain, signedRow, bodyFields, PyData.Plain, PyData.PlainFields, PyKey.isStr]

/-- What an append of a payload that can be written does: the row that it may return is the
one that is read of its line. -/
theorem append_eq (rt : Runtime) (l : AuditLogger lib) (recordedAt recordType : String)
    (payload : Payload lib) (fault : Option Fault) {j : Json}
    (h : (PyData.dict (bodyFields l recordedAt recordType payload.1)).dumps lib = some j) :
    ∃ js fs, ∃ hfs : (Json.obj fs).Readable lib.toJsonLibrary,
      let link : Link String String :=
        ⟨l.previousHash, String.ofList (Json.obj js).text,
          rt.sha256 (String.ofList (Json.obj js).text)⟩
      let signed := signedRow l recordedAt recordType link.claimed payload
      let written := (Json.obj fs).text ++ ['\n']
      IsLink signed link ∧ Written signed link js fs ∧
        append rt l recordedAt recordType payload fault = match l.store, fault with
          | .memory rows, _ =>
            (some (readRow fs hfs), ⟨link.claimed, l.sequence + 1, .memory (rows ++ [signed])⟩)
          | .file text, none =>
            (some (readRow fs hfs), ⟨link.claimed, l.sequence + 1, .file (text ++ written)⟩)
          | .file _, some .beforeWrite => (none, l)
          | .file text, some (.duringWrite n) =>
            (none, { l with store := .file (text ++ written.take n) })
          | .file text, some .fsync =>
            (none, ⟨link.claimed, l.sequence + 1, .file (text ++ written)⟩)
          | .file text, some .afterWrite => (none, { l with store := .file (text ++ written) }) := by
  have htext : (PyData.dict (bodyFields l recordedAt recordType payload.1)).canonicalJson lib =
      some (String.ofList j.text) := by
    rw [PyData.canonicalJson, h]
    rfl
  have hlink := isLink_signedRow htext (rt.sha256 (String.ofList j.text))
  obtain ⟨js, fs, hw⟩ := hlink.written
  have hbody : String.ofList j.text = String.ofList (Json.obj js).text := hw.body
  rw [hbody] at htext hlink hw
  have hfs := PyData.readable_of_dumps _ (AuditRow.wellFormed _) _ hw.whole
  have hline : (signedRow l recordedAt recordType
      (rt.sha256 (String.ofList (Json.obj js).text)) payload).canonicalJson =
      some (String.ofList (Json.obj fs).text) := by
    rw [AuditRow.canonicalJson, PyData.canonicalJson, hw.whole]
    rfl
  have hdecode := decodeAuditRow_of_loads (Json.strictJsonLoads_text hfs)
  refine ⟨js, fs, hfs, hlink, hw, ?_⟩
  unfold append
  rw [htext]
  simp only [hline, String.toList_ofList, hdecode]
  cases l.store with
  | memory rows => rfl
  | file text =>
    cases fault with
    | none => rfl
    | some fault => cases fault <;> rfl

/-- A payload that cannot be written raises before anything is done. -/
theorem append_of_dumps_none {l : AuditLogger lib} {recordedAt recordType : String}
    {payload : Payload lib} {fault : Option Fault}
    (h : (PyData.dict (bodyFields l recordedAt recordType payload.1)).dumps lib = none) :
    append rt l recordedAt recordType payload fault = (none, l) := by
  rw [append, PyData.canonicalJson, h]
  rfl

theorem append_returns {l l' : AuditLogger lib} {recordedAt recordType : String}
    {payload : Payload lib} {fault : Option Fault} {row : AuditRow lib}
    (h : append rt l recordedAt recordType payload fault = (some row, l')) :
    ∃ js fs, ∃ hfs : (Json.obj fs).Readable lib.toJsonLibrary,
      let link : Link String String :=
        ⟨l.previousHash, String.ofList (Json.obj js).text,
          rt.sha256 (String.ofList (Json.obj js).text)⟩
      let signed := signedRow l recordedAt recordType link.claimed payload
      IsLink signed link ∧ Written signed link js fs ∧ row = readRow fs hfs ∧
        (l'.previousHash = link.claimed ∧ l'.sequence = l.sequence + 1) ∧
        l'.store = match l.store with
          | .memory rows => .memory (rows ++ [signed])
          | .file text => .file (text ++ ((Json.obj fs).text ++ ['\n'])) := by
  cases hdumps : (PyData.dict (bodyFields l recordedAt recordType payload.1)).dumps lib with
  | none =>
    rw [append_of_dumps_none hdumps] at h
    cases h
  | some j =>
    obtain ⟨js, fs, hfs, hlink, hw, happend⟩ :=
      append_eq rt l recordedAt recordType payload fault hdumps
    rw [h] at happend
    refine ⟨js, fs, hfs, hlink, hw, ?_⟩
    cases hstore : l.store with
    | memory rows =>
      rw [hstore] at happend
      cases happend
      exact ⟨rfl, ⟨rfl, rfl⟩, rfl⟩
    | file text =>
      rw [hstore] at happend
      cases fault with
      | none =>
        cases happend
        exact ⟨rfl, ⟨rfl, rfl⟩, rfl⟩
      | some fault => cases fault <;> cases happend

/-- The digest of a row is found again when its keys are written in the order in which they
are read. -/
theorem digest_eq_iff {j : Json} (hj : j.NumbersOk)
    (hcollision : rt.sha256 (String.ofList j.text) = rt.sha256 (DecisionFirewall.canonicalJson j) →
      String.ofList j.text = DecisionFirewall.canonicalJson j) :
    rt.sha256 (String.ofList j.text) = rt.sha256 (DecisionFirewall.canonicalJson j) ↔
      j.sorted = j := by
  rw [DecisionFirewall.canonicalJson, Json.render_eq_text] at *
  constructor
  · intro hdigest
    have htext : j.sorted.text ++ [] = j.text ++ [] := by
      rw [String.ofList_inj.mp (hcollision hdigest)]
    exact (Json.text_append_inj _ _ (.sorted j hj) hj [] [] Reading.delimited_nil
      Reading.delimited_nil htext).1
  · intro hsorted
    rw [hsorted]

theorem int_eq_iff {m n : Int} : (PyData.int m).eq lib (.int n) = true ↔ m = n := by
  simp [PyData.eq, PyData.number, eq_comm]

/-- An append that returns extends the log by the row that it returns exactly when the logger
stands behind the rows and the store keeps the row. -/
theorem append_extended_iff {l l' : AuditLogger lib} {rows : List (AuditRow lib)}
    {recordedAt recordType : String} {payload : Payload lib} {fault : Option Fault}
    {row : AuditRow lib} (hrows : l.store.readAll = some rows) (haccepted : Accepted rt rows)
    (h : append rt l recordedAt recordType payload fault = (some row, l'))
    (hcollision : BodyNoCollision rt l recordedAt recordType payload) :
    Extended rt l' rows row ↔ InSync l rows ∧ l.store.Takes payload.1 := by
  obtain ⟨js, fs, hfs, hlink, hw, rfl, -, hstore⟩ := append_returns h
  have hsync : InSync l rows ↔ l.previousHash = tipOf rows ∧ l.sequence = rows.length :=
    ⟨fun hs => ⟨hs.previousHash, hs.sequence⟩, fun hs => ⟨hs.1, hs.2⟩⟩
  cases hl : l.store with
  | memory before =>
    rw [hl] at hrows hstore
    cases hrows
    rw [Extended, hstore, hsync]
    -- the stored row is compared with the one that was read of its text
    have heq := PyData.eq_ofJson_dumps_iff (AuditRow.wellFormed _) hw.whole
    have hplain := plain_signedRow l recordedAt recordType
      (rt.sha256 (String.ofList (Json.obj js).text)) payload
    have hone := (accepted_append_singleton haccepted hlink).trans
      (and_congr_right' (and_iff_right rfl))
    constructor
    · rintro ⟨row', hrow', hsame, hrest⟩
      have hsigned : signedRow l recordedAt recordType
          (rt.sha256 (String.ofList (Json.obj js).text)) payload = row' := by
        have := List.append_cancel_left (Option.some.inj hrow')
        exact List.head_eq_of_cons_eq this
      subst hsigned
      obtain ⟨hprev, hnumber⟩ := hone.mp hrest
      exact ⟨⟨hprev, int_eq_iff.mp hnumber⟩, hplain.mp (heq.mp hsame)⟩
    · rintro ⟨⟨hprev, hnumber⟩, htakes⟩
      exact ⟨_, rfl, heq.mpr (hplain.mpr htakes), hone.mpr ⟨hprev, int_eq_iff.mpr hnumber⟩⟩
  | file text =>
    rw [hl] at hrows hstore
    rw [Extended, hstore, hsync]
    have hread := isLink_readRow hlink hw hfs
    have hnumber : (readRow fs hfs).get "sequence" = .int l.sequence := by
      have hmem : ("sequence", Json.int l.sequence) ∈ js :=
        hw.members "sequence" (.int l.sequence) _ (List.mem_cons_self ..) rfl
      exact readRow_get (hw.perm.mem_iff.mpr (List.mem_cons_of_mem _ hmem))
    have horder : (Json.obj js).sorted = .obj js ↔ payload.1.KeysInOrder lib :=
      (PyData.sorted_dumps_iff _ (wellFormed_bodyFields l recordedAt recordType payload) _
        hw.rest).trans
        (keysInOrder_body l recordedAt recordType payload.1)
    have hdigest := digest_eq_iff hw.numbersOk (hcollision _ hw.rest)
    constructor
    · rintro ⟨row', hrow', -, hrest⟩
      obtain ⟨rfl, hspace⟩ := (readAll_append hrows hfs row').mp hrow'
      obtain ⟨hprev, hclaimed, hseq⟩ := (accepted_append_singleton haccepted hread).mp hrest
      rw [hnumber] at hseq
      exact ⟨⟨hprev, int_eq_iff.mp hseq⟩, horder.mp (hdigest.mp hclaimed), hspace⟩
    · rintro ⟨⟨hprev, hseq⟩, hkeys, hspace⟩
      refine ⟨readRow fs hfs, (readAll_append hrows hfs _).mpr ⟨rfl, hspace⟩,
        PyData.eq_ofJson_self hfs, (accepted_append_singleton haccepted hread).mpr ⟨hprev, ?_, ?_⟩⟩
      · exact hdigest.mpr (horder.mpr hkeys)
      · rw [hnumber]
        exact int_eq_iff.mpr hseq

/-- The logger stands behind the row that it has appended. -/
theorem Extended.inSync {l l' : AuditLogger lib} {rows : List (AuditRow lib)}
    {recordedAt recordType : String} {payload : Payload lib} {fault : Option Fault}
    {row : AuditRow lib} (hrows : l.store.readAll = some rows)
    (h : append rt l recordedAt recordType payload fault = (some row, l')) (hsync : InSync l rows)
    (hextended : Extended rt l' rows row) :
    ∃ rows', l'.store.readAll = some rows' ∧ Accepted rt rows' ∧ InSync l' rows' := by
  obtain ⟨js, fs, hfs, hlink, hw, rfl, ⟨hprev, hseq⟩, hstore⟩ := append_returns h
  obtain ⟨row', hread, -, haccepted⟩ := hextended
  refine ⟨_, hread, haccepted, ?_, ?_⟩
  · -- in memory and in a file the digest of the row is the one that was computed
    have hdigest : row'.get "record_hash" =
        .str (rt.sha256 (String.ofList (Json.obj js).text)) := by
      cases hl : l.store with
      | memory before =>
        rw [hl] at hrows hstore
        cases hrows
        rw [hstore] at hread
        have := List.head_eq_of_cons_eq (List.append_cancel_left (Option.some.inj hread))
        rw [← this]
        exact hlink.claimed
      | file text =>
        rw [hl] at hrows hstore
        rw [hstore] at hread
        obtain ⟨rfl, -⟩ := (readAll_append hrows hfs row').mp hread
        exact (isLink_readRow hlink hw hfs).claimed
    rw [hprev, tipOf, lastHash, List.getLast?_concat, Option.map_some, hdigest]
    rfl
  · rw [hseq, hsync.sequence, List.length_append, List.length_singleton]
    push_cast
    rfl

theorem intOf_of_eq {v : PyData} {m n : Int} (h : v.eq lib (.int m) = true)
    (hn : intOf lib v = some n) : n = m := by
  cases v with
  | bool b =>
    cases hn
    have hm : (m : ℚ) = if b then 1 else 0 := by simpa [PyData.eq, PyData.number] using h
    cases b
    · exact_mod_cast hm.symm
    · exact_mod_cast hm.symm
  | int k =>
    cases hn
    exact int_eq_iff.mp h
  | float repr =>
    cases hn
    have hm : (m : ℚ) = lib.floatValue repr := by simpa [PyData.eq, PyData.number] using h
    rw [← hm]
    split_ifs
    · exact Rat.floor_intCast m
    · exact Rat.ceil_intCast m
  | _ => cases h

/-- A file that the constructor opens is one that it stands behind. -/
theorem openLog_inSync {text : List Char} {l : AuditLogger lib} {rows : List (AuditRow lib)}
    (h : openLog rt lib text = some l) (hrows : (Store.file text).readAll = some rows)
    (haccepted : Accepted rt rows) : l.store = .file text ∧ InSync l rows := by
  unfold openLog at h
  split_ifs at h with hempty
  · cases h
    subst hempty
    have hlines : rowLines [] = [] := rfl
    rw [Store.readAll, hlines] at hrows
    cases hrows
    exact ⟨rfl, rfl, rfl⟩
  · rw [hrows, Option.bind_some] at h
    obtain ⟨errors, -, h⟩ := Option.bind_eq_some_iff.mp h
    split_ifs at h
    obtain ⟨last, hlast, h⟩ := Option.bind_eq_some_iff.mp h
    obtain ⟨n, hn, rfl⟩ := Option.map_eq_some_iff.mp h
    obtain ⟨before, rfl⟩ := List.getLast?_eq_some_iff.mp hlast
    refine ⟨rfl, ?_, ?_⟩
    · simp [tipOf, lastHash]
    · -- the last number is the one that the validator expects
      have hsequence := (accepted_iff.mp haccepted).2
      rw [sequenceErrors_append, List.append_eq_nil_iff] at hsequence
      have hnumber : (last.get "sequence").eq lib (.int before.length) = true := by
        simpa [sequenceErrors, ite_singleton_eq_nil] using hsequence.2
      have hvalue : n = before.length := intOf_of_eq hnumber hn
      rw [hvalue, List.length_append, List.length_singleton]
      push_cast
      rfl

/-- The audit log: two accepted lists of one length and last digest are written alike row by
row; an append that returns leaves an accepted log of the old rows and the returned one exactly
when the logger stands behind the rows and the store keeps the row; an append that raises before
its write changes nothing. -/
theorem audit_log (rt : Runtime) (lib : PyLibrary) :
    (∀ rows rows' : List (AuditRow lib), Accepted rt rows → Accepted rt rows' →
      rows.length = rows'.length → lastHash rows = lastHash rows' → NoCollision rt rows rows' →
      List.Forall₂ (fun row row' => row.canonicalJson = row'.canonicalJson ∧
        (row.Plain → row'.Plain → row.eq row' = true)) rows rows') ∧
    (∀ (l l' : AuditLogger lib) (rows : List (AuditRow lib)) (recordedAt recordType : String)
      (payload : Payload lib) (fault : Option Fault) (row : AuditRow lib),
      l.store.readAll = some rows → Accepted rt rows →
      append rt l recordedAt recordType payload fault = (some row, l') →
      BodyNoCollision rt l recordedAt recordType payload →
      (Extended rt l' rows row ↔ InSync l rows ∧ l.store.Takes payload.1)) ∧
    (∀ (l l' : AuditLogger lib) (recordedAt recordType : String) (payload : Payload lib)
      (fault : Option Fault),
      append rt l recordedAt recordType payload fault = (none, l') →
      (PyData.dict (bodyFields l recordedAt recordType payload.1)).dumps lib = none ∨
        fault = none ∨ fault = some .beforeWrite → l' = l) := by
  refine ⟨fun rows rows' h h' => h.rows_eq h', ?_, ?_⟩
  · intro l l' rows recordedAt recordType payload fault row hrows haccepted h hcollision
    exact append_extended_iff hrows haccepted h hcollision
  · intro l l' recordedAt recordType payload fault h hfault
    cases hdumps : (PyData.dict (bodyFields l recordedAt recordType payload.1)).dumps lib with
    | none =>
      rw [append_of_dumps_none hdumps] at h
      cases h
      rfl
    | some j =>
      obtain ⟨js, fs, hfs, -, -, happend⟩ :=
        append_eq rt l recordedAt recordType payload fault hdumps
      rw [h] at happend
      rw [hdumps] at hfault
      cases hstore : l.store with
      | memory rows =>
        rw [hstore] at happend
        cases happend
      | file text =>
        rw [hstore] at happend
        rcases hfault with hnone | rfl | rfl
        · cases hnone
        · cases happend
        · cases happend
          rfl

/-- The payload `{}`. -/
def emptyPayload (lib : PyLibrary) : Payload lib := ⟨.dict [], List.Pairwise.nil, trivial⟩

/-- A log of one row whose file does not end its line. -/
def unterminatedLog (rt : Runtime) (lib : PyLibrary) : AuditLogger lib :=
  let l := (append rt ⟨zeros, 0, .file []⟩ "2026-01-01T00:00:00+00:00" "REQUEST_RECEIVED"
    (emptyPayload lib) none).2
  match l.store with
  | .memory _ => l
  | .file text => { l with store := .file text.dropLast }

theorem dumps_emptyBody (l : AuditLogger lib) (recordedAt recordType : String) :
    ∃ j, (PyData.dict (bodyFields l recordedAt recordType (emptyPayload lib).1)).dumps lib = some j := by
  have hsort : PyKey.Sortable lib
      ((bodyFields l recordedAt recordType (emptyPayload lib).1).map Prod.fst) = true :=
    sortable_of_allStr rfl
  rw [PyData.dumps, if_pos hsort]
  exact ⟨_, rfl⟩

/-- The text of a row with an empty payload is its canonical text. -/
theorem bodyNoCollision_empty (l : AuditLogger lib) (recordedAt recordType : String) :
    BodyNoCollision rt l recordedAt recordType (emptyPayload lib) := by
  intro j hj _
  have hsorted : j.sorted = j :=
    (PyData.sorted_dumps_iff _ (wellFormed_bodyFields l recordedAt recordType _) j hj).mpr
      ((keysInOrder_body l recordedAt recordType _).mpr ⟨by simp, trivial⟩)
  rw [DecisionFirewall.canonicalJson, Json.render_eq_text, hsorted]

/-- A file that is one line without its end. -/
theorem scan_line {fields : List (String × Json)} (h : (Json.obj fields).NumbersOk) :
    splitlines.scan (Json.obj fields).text = ⟨[], (Json.obj fields).text, none⟩ := by
  have hprintable := Json.isPrintable_text _ h
  have hbrace : '{' ∈ (Json.obj fields).text := by simp [Json.text]
  rw [LineEnds.scan, LineEnds.foldl_scanStep_line (List.ne_nil_of_mem hbrace)
    (fun c hc => isPrintable_not_break (hprintable c hc))
    (fun c hc => isPrintable_not_join (hprintable c hc))]
  rfl

/-- The next row is written into the line of the last one. -/
theorem append_unterminatedLog (rt : Runtime) (lib : PyLibrary) : ∃ rows row l',
    (unterminatedLog rt lib).store.readAll = some rows ∧ Accepted rt rows ∧
      append rt (unterminatedLog rt lib) "2026-01-01T00:00:01+00:00" "REQUEST_VALIDATED"
        (emptyPayload lib) none = (some row, l') ∧
      ¬ Extended rt l' rows row := by
  -- the first row is appended to an empty file
  obtain ⟨j, hj⟩ := @dumps_emptyBody lib ⟨zeros, 0, .file []⟩ "2026-01-01T00:00:00+00:00"
    "REQUEST_RECEIVED"
  obtain ⟨js, fs, hfs, -, -, hfirst⟩ := append_eq rt _ _ _ _ none hj
  have hempty : Accepted rt ([] : List (AuditRow lib)) := rfl
  have hextended := (@append_extended_iff _ _ _ _ [] _ _ _ _ _ rfl hempty hfirst
    (bodyNoCollision_empty _ _ _)).mpr ⟨⟨rfl, rfl⟩, ⟨by simp, trivial⟩, rfl⟩
  obtain ⟨row', hread, -, haccepted⟩ := hextended
  -- the file is cut before the end of its line, and holds the same row
  have hlog : (unterminatedLog rt lib).store = .file (Json.obj fs).text := by
    unfold unterminatedLog
    rw [hfirst]
    show Store.file (([] ++ ((Json.obj fs).text ++ ['\n'])).dropLast) = _
    rw [List.nil_append, List.dropLast_concat]
  have hlast : splitlines.lastLine (Json.obj fs).text = (Json.obj fs).text := by
    rw [LineEnds.lastLine, scan_line hfs.numbersOk]
  have hnot : ¬ (Json.obj fs).text.all Json.isSpace = true := by
    intro hall
    have := List.all_eq_true.mp hall '{' (by simp [Json.text])
    cases this
  have hsame : (unterminatedLog rt lib).store.readAll = some [row'] := by
    have hline := rowLines_append [] hfs.numbersOk
    have hlines : rowLines (Json.obj fs).text = [(Json.obj fs).text] := by
      have hbrace : '{' ∈ (Json.obj fs).text := by simp [Json.text]
      have hblank : ¬ (Json.obj fs).text.all isBlank = true := by
        intro hall
        have := List.all_eq_true.mp hall '{' hbrace
        cases this
      rw [rowLines_eq, hlast, if_neg hblank, scan_line hfs.numbersOk]
      rfl
    have hread' : (Store.file ([] ++ ((Json.obj fs).text ++ ['\n']))).readAll =
        some ([] ++ [row']) := hread
    rw [Store.readAll, hline] at hread'
    rw [hlog, Store.readAll, hlines]
    exact hread'
  obtain ⟨j', hj'⟩ := dumps_emptyBody (unterminatedLog rt lib) "2026-01-01T00:00:01+00:00"
    "REQUEST_VALIDATED"
  obtain ⟨js', fs', hfs', -, -, hsecond⟩ := append_eq rt _ _ _ _ none hj'
  rw [hlog] at hsecond
  refine ⟨_, _, _, hsame, haccepted, hsecond, fun hextended => ?_⟩
  have htakes := ((append_extended_iff hsame haccepted hsecond
    (bodyNoCollision_empty _ _ _)).mp hextended).2
  rw [hlog] at htakes
  rw [Store.Takes, hlast] at htakes
  exact hnot htakes.2

/-- Under no runtime and no library does every append to a log of accepted rows extend
them. -/
theorem unterminated_log_not_extended :
    ¬ ∃ (rt : Runtime) (lib : PyLibrary), ∀ (l l' : AuditLogger lib) (rows : List (AuditRow lib))
      (recordedAt recordType : String) (payload : Payload lib) (row : AuditRow lib),
      l.store.readAll = some rows → Accepted rt rows →
      append rt l recordedAt recordType payload none = (some row, l') →
      Extended rt l' rows row := by
  rintro ⟨rt, lib, hall⟩
  obtain ⟨rows, row, l', hread, haccepted, happend, hnot⟩ := append_unterminatedLog rt lib
  exact hnot (hall _ _ _ _ _ _ _ hread haccepted happend)

end DecisionFirewall.Audit
