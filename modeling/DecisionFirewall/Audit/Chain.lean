import DecisionFirewall.Base.PyData
import DecisionFirewall.Base.PyVal
import DecisionFirewall.Base.Runtime
import DecisionFirewall.Lib.HashChain

/-!
# The Audit Chain

The rows of the audit log of `adf_poc/audit.py` and the two validators of the chain,
`verify_rows` and `validate_phase3_audit_chain` of `adf_poc/phase3/audit.py`.

- §1 rows
- §2 the validators
- §3 an accepted list is a hash chain
- §4 tamper evidence
-/

namespace DecisionFirewall.Audit

open Lib

/-! ## §1 Rows -/

/-- A row: a dictionary. -/
structure AuditRow (lib : PyLibrary) where
  fields : List (PyKey × PyData)
  wellFormed : (PyData.dict fields).WellFormed lib

variable {lib : PyLibrary}

namespace AuditRow

/-- `row.get(name)`. -/
def get (row : AuditRow lib) (name : String) : PyData :=
  (row.fields.lookup (.str name)).getD .none

/-- What is left of a row after `row.pop("record_hash", None)`. -/
def rest (row : AuditRow lib) : List (PyKey × PyData) :=
  row.fields.filter fun f => f.1 ≠ .str "record_hash"

/-- `row == other`. -/
def eq (row other : AuditRow lib) : Bool :=
  (PyData.dict row.fields).eq lib (.dict other.fields)

/-- The row is one that could have been read from a text. -/
def Plain (row : AuditRow lib) : Prop := (PyData.dict row.fields).Plain

/-- `canonical_json(row)`. -/
def canonicalJson (row : AuditRow lib) : Option String :=
  (PyData.dict row.fields).canonicalJson lib

/-- `canonical_json` of the row without its digest. -/
def hashedText (row : AuditRow lib) : Option String :=
  (PyData.dict row.rest).canonicalJson lib

end AuditRow

/-- `v == text`. -/
def isText (v : PyData) (text : String) : Bool :=
  match v with
  | .str s => s = text
  | _ => false

/-- `str(v)`. -/
def str (lib : PyLibrary) : PyData → String
  | .str s => s
  | v => lib.strOf v

/-! ## §2 The validators -/

inductive AuditError where
  | previousHash (index : Nat)
  | hash (index : Nat)
  | sequence (index : Nat)
  deriving DecidableEq, Repr

def zeros : String := "0000000000000000000000000000000000000000000000000000000000000000"

variable (rt : Runtime)

/-- `_verify_indexed_rows`; `none` is an exception. -/
def verifyIndexedRows (previous : String) (index : Nat) :
    List (AuditRow lib) → Option (List AuditError)
  | [] => some []
  | row :: rows =>
    let claimed := row.get "record_hash"
    row.hashedText.bind fun text =>
      (verifyIndexedRows (str lib claimed) (index + 1) rows).map fun errors =>
        -- `row.get("previous_hash")` is read after the pop, which leaves it in place
        (if isText (row.get "previous_hash") previous then [] else [.previousHash index]) ++
          (if isText claimed (rt.sha256 text) then [] else [.hash index]) ++ errors

/-- `AuditLogger.verify_rows(rows)`. -/
def verifyRows (rows : List (AuditRow lib)) : Option (List AuditError) :=
  verifyIndexedRows rt zeros 0 rows

/-- The loop over the sequence numbers. -/
def sequenceErrors (index : Nat) : List (AuditRow lib) → List AuditError
  | [] => []
  | row :: rows =>
    (if (row.get "sequence").eq lib (.int index) then [] else [.sequence index]) ++
      sequenceErrors (index + 1) rows

def validatePhase3AuditChain (rows : List (AuditRow lib)) : Option (Bool × List AuditError) :=
  (verifyRows rt rows).map fun errors =>
    let all := errors ++ sequenceErrors 0 rows
    (errors.isEmpty && all.isEmpty, all)

/-- The validator accepts the rows. -/
def Accepted (rows : List (AuditRow lib)) : Prop :=
  (validatePhase3AuditChain rt rows).map Prod.fst = some true

/-! ## §3 An accepted list is a hash chain -/

/-- The row is the link. -/
structure IsLink (row : AuditRow lib) (link : Link String String) : Prop where
  prev : row.get "previous_hash" = .str link.prev
  body : row.hashedText = some link.body
  claimed : row.get "record_hash" = .str link.claimed

variable {rt}

theorem isText_iff {v : PyData} {text : String} : isText v text = true ↔ v = .str text := by
  cases v <;> simp [isText]

theorem ite_singleton_eq_nil {e : AuditError} {b : Bool} :
    (if b then [] else [e]) = [] ↔ b = true := by
  cases b <;> simp

theorem verifyIndexedRows_iff {rows : List (AuditRow lib)} {previous : String} {index : Nat} :
    verifyIndexedRows rt previous index rows = some [] ↔
      ∃ links, List.Forall₂ IsLink rows links ∧ Link.Linked rt.sha256 previous links := by
  induction rows generalizing previous index with
  | nil => simp [verifyIndexedRows, Link.Linked]
  | cons row rows ih =>
    constructor
    · intro h
      obtain ⟨text, htext, hmap⟩ := Option.bind_eq_some_iff.mp h
      obtain ⟨errors, hrest, hnil⟩ := Option.map_eq_some_iff.mp hmap
      simp only [List.append_eq_nil_iff, ite_singleton_eq_nil, isText_iff] at hnil
      obtain ⟨⟨hprev, hclaimed⟩, rfl⟩ := hnil
      rw [hclaimed] at hrest
      obtain ⟨links, hlinks, hlinked⟩ := ih.mp hrest
      exact ⟨⟨previous, text, rt.sha256 text⟩ :: links, .cons ⟨hprev, htext, hclaimed⟩ hlinks,
        rfl, rfl, hlinked⟩
    · rintro ⟨links, hlinks, hlinked⟩
      cases hlinks with
      | @cons _ link _ _ hrow hrows =>
        obtain ⟨hprev, hclaimed, hlinked⟩ := hlinked
        have hrest := (@ih link.claimed (index + 1)).mpr ⟨_, hrows, hlinked⟩
        have hstr : str lib (row.get "record_hash") = link.claimed := by
          rw [hrow.claimed]
          rfl
        simp only [verifyIndexedRows, hrow.body, Option.bind_some, hstr, hrest, Option.map_some]
        rw [if_pos (isText_iff.mpr (by rw [hrow.prev, hprev])),
          if_pos (isText_iff.mpr (by rw [hrow.claimed, hclaimed]))]
        rfl

theorem accepted_iff {rows : List (AuditRow lib)} :
    Accepted rt rows ↔ (∃ links, List.Forall₂ IsLink rows links ∧
      Link.Linked rt.sha256 zeros links) ∧ sequenceErrors 0 rows = [] := by
  rw [← @verifyIndexedRows_iff _ _ _ _ 0]
  unfold Accepted validatePhase3AuditChain verifyRows
  cases verifyIndexedRows rt zeros 0 rows with
  | none => simp
  | some errors => cases errors <;> simp

theorem sequenceErrors_append (rows rows' : List (AuditRow lib)) (index : Nat) :
    sequenceErrors index (rows ++ rows') =
      sequenceErrors index rows ++ sequenceErrors (index + rows.length) rows' := by
  induction rows generalizing index with
  | nil => rfl
  | cons row rows ih =>
    simp only [List.cons_append, sequenceErrors, ih, List.append_assoc, List.length_cons]
    rw [Nat.add_right_comm, Nat.add_assoc]

/-- `rows[-1]["record_hash"]`, if there is a last row. -/
def lastHash (rows : List (AuditRow lib)) : Option PyData :=
  rows.getLast?.map fun row => row.get "record_hash"

/-- The digest that the next row has to continue. -/
def tipOf (rows : List (AuditRow lib)) : String := ((lastHash rows).map (str lib)).getD zeros

theorem tipOf_eq {rows : List (AuditRow lib)} {links : List (Link String String)}
    (h : List.Forall₂ IsLink rows links) : tipOf rows = Link.tip zeros links := by
  unfold tipOf lastHash
  generalize zeros = p
  induction h generalizing p with
  | nil => rfl
  | @cons row link rows links hrow hrows ih =>
    cases hrows with
    | nil =>
      simp only [List.getLast?_singleton, Option.map_some, hrow.claimed]
      rfl
    | cons hrow' hrows' =>
      rw [List.getLast?_cons_cons]
      exact ih link.claimed

theorem IsLink.unique {row : AuditRow lib} {x y : Link String String} (hx : IsLink row x)
    (hy : IsLink row y) : x = y := by
  have hprev := hx.prev.symm.trans hy.prev
  have hbody := hx.body.symm.trans hy.body
  have hclaimed := hx.claimed.symm.trans hy.claimed
  cases x
  cases y
  simp_all

theorem links_unique {rows : List (AuditRow lib)} {xs ys : List (Link String String)}
    (hxs : List.Forall₂ IsLink rows xs) (hys : List.Forall₂ IsLink rows ys) : xs = ys := by
  induction hxs generalizing ys with
  | nil =>
    cases hys
    rfl
  | cons hx _ ih =>
    cases hys with
    | cons hy hys => rw [hx.unique hy, ih hys]

/-- One more row is accepted when it continues the chain under the next number. -/
theorem accepted_append_singleton {rows : List (AuditRow lib)} (h : Accepted rt rows)
    {row : AuditRow lib} {link : Link String String} (hlink : IsLink row link) :
    Accepted rt (rows ++ [row]) ↔ link.prev = tipOf rows ∧ link.claimed = rt.sha256 link.body ∧
      (row.get "sequence").eq lib (.int rows.length) = true := by
  obtain ⟨⟨links, hlinks, hlinked⟩, hsequence⟩ := accepted_iff.mp h
  rw [accepted_iff, sequenceErrors_append, hsequence, tipOf_eq hlinks]
  simp only [List.nil_append, sequenceErrors, List.append_nil, ite_singleton_eq_nil, Nat.zero_add]
  constructor
  · rintro ⟨⟨all, hall, halllinked⟩, hnumber⟩
    -- the links of the rows before are the ones of before
    rw [links_unique hall (List.rel_append hlinks (.cons hlink .nil))] at halllinked
    obtain ⟨-, hprev, hclaimed⟩ := Link.linked_append_singleton.mp halllinked
    exact ⟨hprev, hclaimed, hnumber⟩
  · rintro ⟨hprev, hclaimed, hnumber⟩
    exact ⟨⟨_, List.rel_append hlinks (.cons hlink .nil),
      Link.linked_append_singleton.mpr ⟨hlinked, hprev, hclaimed⟩⟩, hnumber⟩

/-! ## §4 Tamper evidence -/

/-- No two different texts that the digests of the two lists are taken of have one digest. -/
def NoCollision (rt : Runtime) (rows rows' : List (AuditRow lib)) : Prop :=
  ∀ row ∈ rows, ∀ row' ∈ rows', ∀ text text', row.hashedText = some text →
    row'.hashedText = some text' → rt.sha256 text = rt.sha256 text' → text = text'

/-- The names of the members of a row are the keys: one of them is a text. -/
theorem allStr_of_sortable {keys : List PyKey} (h : PyKey.Sortable lib keys = true) {s : String}
    (hmem : PyKey.str s ∈ keys) : keys.all PyKey.isStr = true := by
  simp only [PyKey.Sortable, Bool.and_eq_true, Bool.or_eq_true, or_assoc] at h
  rcases h.2 with hstr | hnum | hone
  · exact hstr
  · have := List.all_eq_true.mp hnum _ hmem
    cases this
  · match keys, hmem, of_decide_eq_true hone with
    | [k], hmem, _ =>
      rw [← List.mem_singleton.mp hmem]
      rfl

theorem lookup_eq_some_iff {fields : List (PyKey × PyData)}
    (h : (PyData.dict fields).WellFormed lib) {name : String} {v : PyData} :
    fields.lookup (.str name) = some v ↔ (PyKey.str name, v) ∈ fields := by
  have hne := h.1
  clear h
  induction fields with
  | nil => simp
  | cons f fields ih =>
    obtain ⟨k, w⟩ := f
    obtain ⟨hhead, hrest⟩ := List.pairwise_cons.mp hne
    rw [List.lookup_cons]
    by_cases hk : PyKey.str name = k
    · subst hk
      rw [beq_self_eq_true, List.mem_cons, Prod.mk.injEq, Option.some.injEq]
      refine ⟨fun h => .inl ⟨rfl, h.symm⟩, fun h => ?_⟩
      rcases h with ⟨-, rfl⟩ | hmem
      · rfl
      · have := hhead _ (List.mem_map_of_mem hmem)
        simp at this
    · rw [beq_eq_false_iff_ne.mpr hk, List.mem_cons, Prod.mk.injEq]
      simp only [hk, false_and, false_or]
      exact ih hrest

theorem AuditRow.mem_of_get {row : AuditRow lib} {name s : String}
    (h : row.get name = .str s) : (PyKey.str name, PyData.str s) ∈ row.fields := by
  apply (lookup_eq_some_iff row.wellFormed).mp
  unfold AuditRow.get at h
  cases hl : row.fields.lookup (.str name) with
  | none => rw [hl] at h; cases h
  | some v => rw [hl] at h; rw [show v = .str s from h]

theorem sortable_of_allStr {keys : List PyKey} (h : keys.all PyKey.isStr = true) :
    PyKey.Sortable lib keys = true := by
  have hother : PyKey.other ∉ keys := by
    intro hmem
    have := List.all_eq_true.mp h _ hmem
    cases this
  simp [PyKey.Sortable, hother, h]

/-- A dictionary of texts and one more member: what is written is in the order of the names. -/
theorem dumps_insert {fields rest : List (PyKey × PyData)}
    (hwf : (PyData.dict fields).WellFormed lib) {name : String} {v : PyData}
    (hperm : fields.Perm ((.str name, v) :: rest))
    (hstr : (rest.map Prod.fst).all PyKey.isStr = true) {js : List (String × Json)}
    (hrest : (PyData.dict rest).dumps lib = some (.obj js)) {j : Json}
    (hv : v.dumps lib = some j) :
    ∃ fs, (PyData.dict fields).dumps lib = some (.obj fs) ∧ fs.Perm ((name, j) :: js) ∧
      (fs.map Prod.fst).Pairwise (· ≤ ·) ∧ (fs.map Prod.fst).Nodup := by
  obtain ⟨-, ms, hms, hjs⟩ := PyData.dumps_dict hrest
  cases hjs
  have hall : (fields.map Prod.fst).all PyKey.isStr = true := by
    rw [List.all_eq_true]
    intro k hk
    rcases List.mem_cons.mp ((hperm.map Prod.fst).mem_iff.mp hk) with rfl | hk
    · rfl
    · exact List.all_eq_true.mp hstr k hk
  -- the members are written in the order of the given fields and then sorted
  have hcons := List.Forall₂.cons (R := fun f m => m.1 = f.1 ∧ PyData.dumps lib f.2 = some m.2)
    (a := (PyKey.str name, v)) (b := (PyKey.str name, j)) ⟨rfl, hv⟩
    (PyData.dumpsFields_eq_some.mp hms)
  obtain ⟨ns, hns, hnsperm⟩ := List.perm_comp_forall₂ hperm hcons
  have hdumps : PyData.dumpsFields lib fields = some ns := PyData.dumpsFields_eq_some.mpr hns
  have hkeys := PyData.keys_of_dumpsFields hdumps
  have hj : (PyData.dict fields).dumps lib = some (.obj (PyData.sortMembers lib ns)) := by
    rw [PyData.dumps, if_pos (sortable_of_allStr hall), hdumps]
    rfl
  refine ⟨_, hj, ?_, ?_, (PyData.readable_of_dumps _ hwf _ hj).1⟩
  · refine (PyData.sortMembers_perm ns).trans ((hnsperm.map _).trans ?_)
    exact .cons _ (PyData.sortMembers_perm ms).symm
  · refine (PyData.pairwise_sortMembers_iff (by rw [hkeys]; exact sortable_of_allStr hall)
      (by rw [hkeys]; exact hwf.1)).mpr fun k hk l hl hle => ?_
    rw [hkeys] at hk hl
    rw [PyKey.le_of_isStr (List.all_eq_true.mp hall k hk) (List.all_eq_true.mp hall l hl)] at hle
    exact of_decide_eq_true hle

/-- A member and the others. -/
theorem perm_of_mem {fields : List (PyKey × PyData)} (hwf : (PyData.dict fields).WellFormed lib)
    {k : PyKey} {v : PyData} (h : (k, v) ∈ fields) :
    fields.Perm ((k, v) :: fields.filter fun f => f.1 ≠ k) := by
  have hne := hwf.1
  clear hwf
  induction fields with
  | nil => exact absurd h List.not_mem_nil
  | cons f fields ih =>
    obtain ⟨hhead, hrest⟩ := List.pairwise_cons.mp hne
    rcases List.mem_cons.mp h with rfl | hmem
    · rw [List.filter_cons_of_neg (by simp), List.filter_eq_self.mpr]
      intro g hg
      rw [decide_eq_true_eq]
      rintro rfl
      have := hhead _ (List.mem_map_of_mem hg)
      simp at this
    · have hf : f.1 ≠ k := by
        rintro rfl
        have := hhead _ (List.mem_map_of_mem hmem)
        simp at this
      rw [List.filter_cons_of_pos (by simpa using hf)]
      exact (List.Perm.cons f (ih hmem hrest)).trans (List.Perm.swap _ _ _)

theorem IsLink.prev_mem {row : AuditRow lib} {link : Link String String} (h : IsLink row link) :
    (PyKey.str "previous_hash", PyData.str link.prev) ∈ row.rest := by
  simpa [AuditRow.rest] using row.mem_of_get h.prev

/-- How a row is written: `js` are the members that its digest is taken of, in the order in
which they are written, and `fs` are all of them. -/
structure Written (row : AuditRow lib) (link : Link String String)
    (js fs : List (String × Json)) : Prop where
  rest : (PyData.dict row.rest).dumps lib = some (.obj js)
  body : link.body = String.ofList (Json.obj js).text
  members : ∀ name v j, (PyKey.str name, v) ∈ row.rest → v.dumps lib = some j → (name, j) ∈ js
  numbersOk : (Json.obj js).NumbersOk
  whole : (PyData.dict row.fields).dumps lib = some (.obj fs)
  perm : fs.Perm (("record_hash", .str link.claimed) :: js)
  ordered : (fs.map Prod.fst).Pairwise (· ≤ ·)
  nodup : (fs.map Prod.fst).Nodup

theorem Written.nodup_rest {row : AuditRow lib} {link : Link String String}
    {js fs : List (String × Json)} (h : Written row link js fs) : (js.map Prod.fst).Nodup :=
  (List.nodup_cons.mp ((h.perm.map Prod.fst).nodup_iff.mp h.nodup)).2

theorem IsLink.written {row : AuditRow lib} {link : Link String String} (h : IsLink row link) :
    ∃ js fs, Written row link js fs := by
  obtain ⟨j, hj, hbody⟩ := Option.map_eq_some_iff.mp h.body
  have hperm := perm_of_mem row.wellFormed (row.mem_of_get h.claimed)
  obtain ⟨hsort, ms, hms, rfl⟩ := PyData.dumps_dict hj
  have hstr := allStr_of_sortable hsort (List.mem_map_of_mem h.prev_mem)
  obtain ⟨fs, hfs, hfsperm, hordered, hnodup⟩ :=
    @dumps_insert _ _ _ row.wellFormed _ _ hperm hstr _ hj (.str link.claimed) rfl
  have hreadable := PyData.readable_of_dumps _ row.wellFormed _ hfs
  refine ⟨_, fs,
    { rest := hj
      body := hbody.symm
      members := fun name v j hv hj => ?_
      numbersOk := (Json.numbersOkFields_iff _).mpr fun f hf => ?_
      whole := hfs
      perm := hfsperm
      ordered := hordered
      nodup := hnodup }⟩
  · obtain ⟨m, hm, hkey, hvalue⟩ :=
      PyData.forall₂_mem_left (PyData.dumpsFields_eq_some.mp hms) hv
    apply (PyData.sortMembers_perm ms).mem_iff.mpr
    refine List.mem_map.mpr ⟨m, hm, ?_⟩
    rw [hkey, show m.2 = j from Option.some.inj (hvalue.symm.trans hj)]
    rfl
  · exact (Json.readableFields_iff.mp hreadable.2 f (hfsperm.mem_iff.mpr (by simp [hf]))).numbersOk

/-- One text is the text of one object. -/
theorem Written.rest_eq {row row' : AuditRow lib} {link link' : Link String String}
    {js fs js' fs' : List (String × Json)} (h : Written row link js fs)
    (h' : Written row' link' js' fs') (hbody : link.body = link'.body) : js = js' := by
  have htext : (Json.obj js).text ++ [] = (Json.obj js').text ++ [] := by
    rw [String.ofList_inj.mp (h.body.symm.trans (hbody.trans h'.body))]
  exact Json.obj.inj (Json.text_append_inj _ _ h.numbersOk h'.numbersOk [] []
    Reading.delimited_nil Reading.delimited_nil htext).1

/-- The text that a digest is taken of and the digest are the whole row. -/
theorem IsLink.dumps_eq {row row' : AuditRow lib} {link link' : Link String String}
    (h : IsLink row link) (h' : IsLink row' link') (hbody : link.body = link'.body)
    (hclaimed : link.claimed = link'.claimed) :
    ∃ j, (PyData.dict row.fields).dumps lib = some j ∧
      (PyData.dict row'.fields).dumps lib = some j := by
  obtain ⟨js, fs, hw⟩ := h.written
  obtain ⟨js', fs', hw'⟩ := h'.written
  have hperm := hw.perm
  rw [hw.rest_eq hw' hbody, hclaimed] at hperm
  have heq : fs = fs' := by
    refine (hperm.trans hw'.perm.symm).eq_of_pairwise ?_ (List.pairwise_map.mp hw.ordered)
      (List.pairwise_map.mp hw'.ordered)
    -- two members of one name are one member
    intro a b ha hb hab hba
    exact List.inj_on_of_nodup_map hw.nodup ha ((hperm.trans hw'.perm.symm).mem_iff.mpr hb)
      (le_antisymm hab hba)
  exact ⟨_, hw.whole, heq ▸ hw'.whole⟩

/-- The text that the digest is taken of tells which digest the row continues. -/
theorem IsLink.prev_eq {row row' : AuditRow lib} {link link' : Link String String}
    (h : IsLink row link) (h' : IsLink row' link') (hbody : link.body = link'.body) :
    link.prev = link'.prev := by
  obtain ⟨js, fs, hw⟩ := h.written
  obtain ⟨js', fs', hw'⟩ := h'.written
  have hmem : ("previous_hash", Json.str link.prev) ∈ js := hw.members _ _ _ h.prev_mem rfl
  have hmem' : ("previous_hash", Json.str link'.prev) ∈ js' := hw'.members _ _ _ h'.prev_mem rfl
  rw [← hw.rest_eq hw' hbody] at hmem'
  have := congrArg Prod.snd (List.inj_on_of_nodup_map hw.nodup_rest hmem hmem' rfl)
  simpa using this

/-- Of two accepted lists of one length that end in one digest every row is written alike;
rows that could have been read from a text are equal. -/
theorem Accepted.rows_eq {rows rows' : List (AuditRow lib)} (h : Accepted rt rows)
    (h' : Accepted rt rows') (hlength : rows.length = rows'.length)
    (hlast : lastHash rows = lastHash rows') (hcollision : NoCollision rt rows rows') :
    List.Forall₂ (fun row row' => row.canonicalJson = row'.canonicalJson ∧
      (row.Plain → row'.Plain → row.eq row' = true)) rows rows' := by
  obtain ⟨⟨links, hlinks, hlinked⟩, -⟩ := accepted_iff.mp h
  obtain ⟨⟨links', hlinks', hlinked'⟩, -⟩ := accepted_iff.mp h'
  have hlengths : links.length = links'.length := by
    rw [← hlinks.length_eq, ← hlinks'.length_eq, hlength]
  have htip : Link.tip zeros links = Link.tip zeros links' := by
    rw [← tipOf_eq hlinks, ← tipOf_eq hlinks', tipOf, tipOf, hlast]
  have hbodies : List.Forall₂ (fun link link' : Link String String => link.body = link'.body)
      links links' := by
    apply hlinked.bodies_eq hlinked' hlengths htip
    · intro link hlink link' hlink' hdigest
      obtain ⟨row, hrow, hisLink⟩ := PyData.forall₂_mem_left hlinks.flip hlink
      obtain ⟨row', hrow', hisLink'⟩ := PyData.forall₂_mem_left hlinks'.flip hlink'
      exact hcollision row hrow row' hrow' _ _ hisLink.body hisLink'.body hdigest
    · intro link hlink link' hlink' hbody
      obtain ⟨row, -, hisLink⟩ := PyData.forall₂_mem_left hlinks.flip hlink
      obtain ⟨row', -, hisLink'⟩ := PyData.forall₂_mem_left hlinks'.flip hlink'
      exact hisLink.prev_eq hisLink' hbody
  clear hlength hlast hcollision hlengths htip h h'
  -- row by row along both lists
  generalize zeros = p at hlinked hlinked'
  generalize p = q at hlinked'
  induction hlinks generalizing rows' links' p q with
  | nil =>
    cases hbodies
    cases hlinks'
    exact .nil
  | @cons row link rows links hrow hrows ih =>
    cases hbodies with
    | @cons _ link' _ links' hbody hbodies =>
      cases hlinks' with
      | @cons row' _ rows' _ hrow' hrows' =>
        obtain ⟨-, hclaimed, hlinked⟩ := hlinked
        obtain ⟨-, hclaimed', hlinked'⟩ := hlinked'
        refine .cons ?_ (ih _ hrows' hbodies _ hlinked _ hlinked')
        have hsame : link.claimed = link'.claimed := by rw [hclaimed, hclaimed', hbody]
        obtain ⟨j, hj, hj'⟩ := hrow.dumps_eq hrow' hbody hsame
        refine ⟨?_, fun hplain hplain' => ?_⟩
        · rw [AuditRow.canonicalJson, AuditRow.canonicalJson, PyData.canonicalJson,
            PyData.canonicalJson, hj, hj']
        · exact PyData.eq_of_dumps _ _ hplain hplain' row'.wellFormed j hj hj'

end DecisionFirewall.Audit
