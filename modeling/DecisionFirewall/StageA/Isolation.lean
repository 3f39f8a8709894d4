import DecisionFirewall.StageA.WriterPreservation

/-!
# Isolation of Principals

Claims of different principals share one thing: the subject of their events is
`principal_id:request_id`, and both identifiers may contain the separator. Two
principals are isolated exactly as far as their subjects differ.

- §1 the identifiers that the request schema admits
- §2 two claims both succeed exactly when their subjects are free and distinct
- §3 a run of claims and what it leaves alone
- §4 the answers another principal gets after such a run
-/

namespace DecisionFirewall.StageA

open Lib.Table

/-! ## §1 Admitted identifiers -/

/-- `[A-Za-z0-9]`. -/
def isIdentifierHead (c : Char) : Bool :=
  ('a' ≤ c && c ≤ 'z') || ('A' ≤ c && c ≤ 'Z') || ('0' ≤ c && c ≤ '9')

/-- `[A-Za-z0-9._:-]`. -/
def isIdentifierTail (c : Char) : Bool :=
  isIdentifierHead c || c = '.' || c = '_' || c = ':' || c = '-'

/-- `[A-Za-z0-9][A-Za-z0-9._:-]{0,127}`. -/
def matchesIdentifier : List Char → Bool
  | [] => false
  | c :: rest => isIdentifierHead c && rest.length ≤ 127 && rest.all isIdentifierTail

/-- `re.search` with the schema's anchored pattern: `$` also matches before a final
newline. -/
def SchemaIdentifier (s : String) : Prop :=
  matchesIdentifier s.toList = true ∨
    (s.toList.getLast? = some '\n' ∧ matchesIdentifier s.toList.dropLast = true)

instance (s : String) : Decidable (SchemaIdentifier s) :=
  inferInstanceAs (Decidable (_ ∨ _))

theorem length_le_of_matchesIdentifier {cs : List Char} (h : matchesIdentifier cs = true) :
    0 < cs.length ∧ cs.length ≤ 128 := by
  cases cs with
  | nil => cases h
  | cons c rest =>
    simp only [matchesIdentifier, Bool.and_eq_true, decide_eq_true_eq] at h
    simp only [List.length_cons]
    omega

theorem SchemaIdentifier.length_le {s : String} (h : SchemaIdentifier s) :
    0 < s.length ∧ s.length ≤ 129 := by
  rw [← String.length_toList]
  rcases h with h | ⟨-, h⟩
  · have := length_le_of_matchesIdentifier h
    omega
  · have := length_le_of_matchesIdentifier h
    rw [List.length_dropLast] at this
    omega

theorem SchemaIdentifier.isIdentifier {s : String} (h : SchemaIdentifier s) : IsIdentifier s := by
  have := h.length_le
  refine ⟨?_, by omega⟩
  rintro rfl
  simp at this

/-- A pair that the schema and the credential table admit. -/
def RequestKey.Admitted (k : RequestKey) : Prop :=
  SchemaIdentifier k.principalId ∧ SchemaIdentifier k.requestId

instance (k : RequestKey) : Decidable k.Admitted :=
  inferInstanceAs (Decidable (_ ∧ _))

theorem RequestKey.Admitted.length_subject_le {k : RequestKey} (h : k.Admitted) :
    k.subject.length ≤ 512 := by
  have := h.1.length_le
  have := h.2.length_le
  rw [RequestKey.length_subject]
  omega

/-- One principal's subjects determine its request identifiers. -/
theorem RequestKey.eq_of_subject {k k' : RequestKey} (hp : k.principalId = k'.principalId)
    (h : k.subject = k'.subject) : k = k' := by
  obtain ⟨p, r⟩ := k
  obtain ⟨p', r'⟩ := k'
  simp only [RequestKey.subject] at h hp
  subst hp
  have := congrArg String.toList h
  simp only [String.toList_append, List.append_cancel_left_eq] at this
  rw [String.toList_inj.mp this]

/-! ## §2 Claiming two pairs -/

/-- The arguments of one `claim_request`. -/
structure Claim where
  key : RequestKey
  requestSha256 : String
  claimedAt : String
  deriving DecidableEq, Repr

def Claim.run (rt : Runtime) (L : Ledger) (c : Claim) : Outcome ClaimOutcome :=
  claimRequest rt c.key c.requestSha256 c.claimedAt L

/-- The claim passes the checks of the schema, the credential table and `claim_request`. -/
def Claim.Ok (rt : Runtime) (c : Claim) : Prop :=
  c.key.Admitted ∧ IsSha256 c.requestSha256 ∧ rt.IsOffsetTimestamp c.claimedAt

instance (rt : Runtime) (c : Claim) : Decidable (c.Ok rt) :=
  inferInstanceAs (Decidable (_ ∧ _ ∧ _))

/-- Claiming both succeeds with `NEW` for each and leaves an accepted ledger. -/
def BothNew (rt : Runtime) (L : Ledger) (c c' : Claim) : Prop :=
  (c.run rt L).result = .ok .new ∧ (c'.run rt (c.run rt L).ledger).result = .ok .new ∧
    ControlRelationsOk rt (c'.run rt (c.run rt L).ledger).ledger

section Claims

variable {rt : Runtime} {L : Ledger} {c c' : Claim}

theorem Claim.Ok.args (h : c.Ok rt) : ClaimArgsOk rt c.key c.requestSha256 c.claimedAt :=
  ⟨h.1.1.isIdentifier, h.1.2.isIdentifier, h.2.1, h.2.2⟩

theorem request_eq_none_of_free {k : RequestKey} (h : ¬ SubjectTaken L k) : L.request k = none :=
  Ledger.request_eq_none.mpr fun r hr hk => h ⟨r, hr, by rw [hk]⟩

theorem not_claimEventUsed_of_free (h : Accepted rt L) {k : RequestKey} {requestSha256 : String}
    (hfree : ¬ SubjectTaken L k) : ¬ ClaimEventUsed rt L k requestSha256 := by
  intro hused
  obtain ⟨o, ho, hoe⟩ := List.mem_map.mp hused
  have hemitted := h.relations.projection.emitted ho
  rw [show o.key = claimEvent k from congrArg Prod.fst hoe] at hemitted
  exact hfree hemitted

/-- A claim with a free subject answers `NEW`. -/
theorem Claim.run_of_free (h : Accepted rt L) (hc : c.Ok rt) (hfree : ¬ SubjectTaken L c.key) :
    c.run rt L = ⟨.ok .new, claimedLedger rt L c.key c.requestSha256 c.claimedAt⟩ := by
  have hbody : claimRequestBody rt c.key c.requestSha256 c.claimedAt L =
      .ok (.new, claimedLedger rt L c.key c.requestSha256 c.claimedAt) :=
    (claimRequestBody_of_unclaimed (request_eq_none_of_free hfree)).mpr
      ⟨not_claimEventUsed_of_free h hfree, rfl, rfl⟩
  have hcheck : require (ClaimArgsOk rt c.key c.requestSha256 c.claimedAt) .bindingInvalid =
      .ok () := require_eq_ok.mpr hc.args
  simp only [Claim.run, claimRequest, hcheck, checked]
  exact transaction_of_ok h.relations (onIntegrity_eq_ok.mpr hbody)

/-- A claim that answers `NEW` was unclaimed and wrote an unused event. -/
theorem Claim.new_cases (hnew : (c.run rt L).result = .ok .new) :
    ControlRelationsOk rt L ∧ ClaimArgsOk rt c.key c.requestSha256 c.claimedAt ∧
      L.request c.key = none ∧ ¬ ClaimEventUsed rt L c.key c.requestSha256 ∧
      (c.run rt L).ledger = claimedLedger rt L c.key c.requestSha256 c.claimedAt := by
  unfold Claim.run claimRequest at hnew ⊢
  by_cases hargs : ClaimArgsOk rt c.key c.requestSha256 c.claimedAt
  · simp only [require, if_pos hargs, checked] at hnew ⊢
    rcases transaction_cases rt L (fun L => onIntegrity .unavailable
      (claimRequestBody rt c.key c.requestSha256 c.claimedAt L)) with
      ⟨e, he, -⟩ | ⟨out, L', hok, hL, hbody⟩
    · rw [he] at hnew
      cases hnew
    · rw [hok] at hnew ⊢
      cases hnew
      rw [onIntegrity_eq_ok] at hbody
      cases hk : L.request c.key with
      | some row =>
        rw [claimRequestBody_of_claimed hk] at hbody
        simp only [Except.ok.injEq, Prod.mk.injEq] at hbody
        split at hbody <;> cases hbody.1
      | none =>
        obtain ⟨hevent, -, rfl⟩ := (claimRequestBody_of_unclaimed hk).mp hbody
        exact ⟨hL, hargs, rfl, hevent, rfl⟩
  · simp [require, if_neg hargs, checked] at hnew

theorem subjectTaken_claimedLedger {k k' : RequestKey} {requestSha256 claimedAt : String} :
    SubjectTaken (claimedLedger rt L k requestSha256 claimedAt) k' ↔
      SubjectTaken L k' ∨ k.subject = k'.subject := by
  simp only [SubjectTaken, claimedLedger, List.mem_append, List.mem_singleton]
  constructor
  · rintro ⟨r, hr | rfl, hsubject⟩
    · exact .inl ⟨r, hr, hsubject⟩
    · exact .inr hsubject
  · rintro (⟨r, hr, hsubject⟩ | hsubject)
    · exact ⟨r, .inl hr, hsubject⟩
    · exact ⟨_, .inr rfl, hsubject⟩

/-- Two claims both succeed exactly when their subjects are free and distinct. -/
theorem bothNew_iff (h : Accepted rt L) (hc : c.Ok rt) (hc' : c'.Ok rt) :
    BothNew rt L c c' ↔
      ¬ SubjectTaken L c.key ∧ ¬ SubjectTaken L c'.key ∧ c.key.subject ≠ c'.key.subject := by
  constructor
  · rintro ⟨hnew, hnew', haccepted⟩
    obtain ⟨-, -, hk, hevent, hrun⟩ := Claim.new_cases hnew
    rw [hrun] at hnew' haccepted
    -- the second claim opens the ledger, so the first was accepted
    obtain ⟨hfirst, -, hk', hevent', hrun'⟩ := Claim.new_cases hnew'
    have hfree := ((claimedLedger_accepted_iff h hc.args hk hevent).mp hfirst).2
    rw [hrun'] at haccepted
    have hschema : Accepted rt (claimedLedger rt L c.key c.requestSha256 c.claimedAt) :=
      ⟨.claimed h hk hevent, hfirst⟩
    have hfree' := ((claimedLedger_accepted_iff hschema hc'.args hk' hevent').mp haccepted).2
    rw [subjectTaken_claimedLedger, not_or] at hfree'
    exact ⟨hfree, hfree'⟩
  · rintro ⟨hfree, hfree', hne⟩
    have hrun := Claim.run_of_free h hc hfree
    have haccepted : Accepted rt (claimedLedger rt L c.key c.requestSha256 c.claimedAt) :=
      (claim_commit h hc.args (request_eq_none_of_free hfree) hc.1.length_subject_le
        hfree).accepted h
    have hfree'' : ¬ SubjectTaken (claimedLedger rt L c.key c.requestSha256 c.claimedAt) c'.key := by
      rw [subjectTaken_claimedLedger]
      exact not_or.mpr ⟨hfree', hne⟩
    have hrun' := Claim.run_of_free haccepted hc' hfree''
    refine ⟨by rw [hrun], by rw [hrun, hrun'], ?_⟩
    rw [hrun, hrun']
    exact ((claim_commit haccepted hc'.args (request_eq_none_of_free hfree'')
      hc'.1.length_subject_le hfree'').accepted haccepted).relations

end Claims

/-! ## §3 Runs of claims -/

/-- The ledger after a sequence of claims. -/
def runClaims (rt : Runtime) (L : Ledger) (cs : List Claim) : Ledger :=
  cs.foldl (fun L c => (c.run rt L).ledger) L

/-- `L'` differs from `L` only by claims of principal `p`. -/
structure ClaimFrame (p : String) (L L' : Ledger) : Prop where
  requests : ∃ rs, L'.requests = L.requests ++ rs ∧ ∀ r ∈ rs, r.principalId = p
  authorizations : L'.authorizations = L.authorizations
  attempts : L'.attempts = L.attempts
  requestResults : L'.requestResults = L.requestResults
  events : ∀ key digest, key.eventType ≠ .requestClaimed →
    ((key, digest) ∈ L'.auditOutbox.map (fun o => (o.key, o.payloadSha256)) ↔
      (key, digest) ∈ L.auditOutbox.map fun o => (o.key, o.payloadSha256))

/-- Each claim names a subject that no other request of the ledger has. -/
def SubjectsApart (L : Ledger) (cs : List Claim) : Prop :=
  ∀ c ∈ cs, ∀ r ∈ L.requests, r.key.subject = c.key.subject → r.key = c.key

instance (L : Ledger) (cs : List Claim) : Decidable (SubjectsApart L cs) := by
  unfold SubjectsApart
  infer_instance

section Runs

variable {rt : Runtime} {p : String} {L L' : Ledger} {cs : List Claim}

theorem ClaimFrame.refl : ClaimFrame p L L :=
  ⟨⟨[], by simp, by simp⟩, rfl, rfl, rfl, fun _ _ _ => Iff.rfl⟩

theorem ClaimFrame.trans {M : Ledger} (h : ClaimFrame p L L') (h' : ClaimFrame p L' M) :
    ClaimFrame p L M := by
  obtain ⟨rs, hrs, hp⟩ := h.requests
  obtain ⟨rs', hrs', hp'⟩ := h'.requests
  refine ⟨⟨rs ++ rs', by rw [hrs', hrs, List.append_assoc], ?_⟩,
    h'.authorizations.trans h.authorizations, h'.attempts.trans h.attempts,
    h'.requestResults.trans h.requestResults,
    fun key d hkey => (h'.events key d hkey).trans (h.events key d hkey)⟩
  intro r hr
  rcases List.mem_append.mp hr with hr | hr
  · exact hp r hr
  · exact hp' r hr

theorem claimFrame_claimedLedger {k : RequestKey} {requestSha256 claimedAt : String} :
    ClaimFrame k.principalId L (claimedLedger rt L k requestSha256 claimedAt) := by
  refine ⟨⟨_, rfl, by simp [claimedRow]⟩, rfl, rfl, rfl, fun key d hkey => ?_⟩
  simp only [claimedLedger, List.map_append, List.mem_append]
  refine or_iff_left fun hmem => hkey ?_
  simp only [List.map_cons, List.map_nil, List.mem_singleton, Prod.mk.injEq,
    Ledger.outboxRow_key] at hmem
  rw [hmem.1]
  rfl

/-- What one claim leaves: the ledger itself, or the ledger with its row. -/
theorem Claim.ledger_cases (rt : Runtime) (L : Ledger) (c : Claim) :
    (c.run rt L).ledger = L ∨
      (c.run rt L).ledger = claimedLedger rt L c.key c.requestSha256 c.claimedAt := by
  rcases checked_transaction_cases rt L
    (require (ClaimArgsOk rt c.key c.requestSha256 c.claimedAt) .bindingInvalid)
    (fun _ L => onIntegrity .unavailable
      (claimRequestBody rt c.key c.requestSha256 c.claimedAt L)) with
    ⟨e, he⟩ | ⟨_, out, L', -, hbody, hok⟩
  · exact .inl (congrArg Outcome.ledger he)
  · have hledger : (c.run rt L).ledger = L' := congrArg Outcome.ledger hok
    rw [hledger]
    rw [onIntegrity_eq_ok] at hbody
    cases hk : L.request c.key with
    | some row =>
      rw [claimRequestBody_of_claimed hk] at hbody
      cases hbody
      exact .inl rfl
    | none => exact .inr ((claimRequestBody_of_unclaimed hk).mp hbody).2.2

/-- A run of claims that are apart keeps the ledger accepted and frames it. -/
theorem runClaims_spec (h : Accepted rt L) (hp : ∀ c ∈ cs, c.key.principalId = p)
    (hok : ∀ c ∈ cs, c.key.Admitted) (hapart : SubjectsApart L cs) :
    Accepted rt (runClaims rt L cs) ∧ ClaimFrame p L (runClaims rt L cs) ∧
      ∀ k, SubjectTaken (runClaims rt L cs) k →
        SubjectTaken L k ∨ ∃ c ∈ cs, c.key.subject = k.subject := by
  -- induction on the claims: the next ledger is accepted and still apart from the rest
  induction cs generalizing L with
  | nil => exact ⟨h, .refl, fun k hk => .inl hk⟩
  | cons c cs ih =>
    have hsafe : ¬ (LedgerCall.claimRequest c.key c.requestSha256
        c.claimedAt).CommitsUnaccepted rt L := by
      rintro ⟨-, hk, -, hlong | ⟨r, hr, hsubject⟩⟩
      · have := (hok c (by simp)).length_subject_le
        omega
      · exact Ledger.request_eq_none.mp hk r hr (hapart c (by simp) r hr hsubject)
    have haccepted : Accepted rt (c.run rt L).ledger := claimRequest_accepted h hsafe
    have hcp := hp c (by simp)
    have hframe : ClaimFrame p L (c.run rt L).ledger := by
      rcases c.ledger_cases rt L with heq | heq <;> rw [heq]
      · exact .refl
      · exact hcp ▸ claimFrame_claimedLedger
    have htaken : ∀ k, SubjectTaken (c.run rt L).ledger k →
        SubjectTaken L k ∨ c.key.subject = k.subject := by
      intro k hk
      rcases c.ledger_cases rt L with heq | heq <;> rw [heq] at hk
      · exact .inl hk
      · exact subjectTaken_claimedLedger.mp hk
    have hapart' : SubjectsApart (c.run rt L).ledger cs := by
      intro d hd r hr hsubject
      have hold : r ∈ L.requests ∨ r.key = c.key := by
        rcases c.ledger_cases rt L with heq | heq <;> rw [heq] at hr
        · exact .inl hr
        · rcases List.mem_append.mp hr with hr | hr
          · exact .inl hr
          · exact .inr (by rw [List.mem_singleton.mp hr]; rfl)
      rcases hold with hr | hrk
      · exact hapart d (List.mem_cons_of_mem _ hd) r hr hsubject
      · -- one principal's claims have one subject only for one pair
        rw [hrk] at hsubject ⊢
        exact RequestKey.eq_of_subject
          (hcp.trans (hp d (List.mem_cons_of_mem _ hd)).symm) hsubject
    obtain ⟨hrest, hframe', htaken'⟩ := ih haccepted
      (fun d hd => hp d (List.mem_cons_of_mem _ hd))
      (fun d hd => hok d (List.mem_cons_of_mem _ hd)) hapart'
    refine ⟨hrest, hframe.trans hframe', fun k hk => ?_⟩
    rcases htaken' k hk with hk | ⟨d, hd, hsubject⟩
    · rcases htaken k hk with hk | hsubject
      · exact .inl hk
      · exact .inr ⟨c, by simp, hsubject⟩
    · exact .inr ⟨d, List.mem_cons_of_mem _ hd, hsubject⟩

end Runs

/-! ## §4 The answers of another principal -/

section Answers

variable {rt : Runtime} {p : String} {L L' : Ledger}

theorem ClaimFrame.request (h : ClaimFrame p L L') {k : RequestKey} (hk : k.principalId ≠ p) :
    L'.request k = L.request k := by
  obtain ⟨rs, hrs, hp⟩ := h.requests
  have hnone : rs.find? (fun r => r.key = k) = none := by
    rw [List.find?_eq_none]
    intro r hr hrk
    simp only [decide_eq_true_eq] at hrk
    exact hk (by rw [← hrk]; exact hp r hr)
  simp [Ledger.request, hrs, List.find?_append, hnone]

theorem ClaimFrame.resultsOf (h : ClaimFrame p L L') (k : RequestKey) :
    L'.resultsOf k = L.resultsOf k := by
  simp [Ledger.resultsOf, h.requestResults]

theorem ClaimFrame.authorizationsOf (h : ClaimFrame p L L') (k : RequestKey) :
    L'.authorizationsOf k = L.authorizationsOf k := by
  simp [Ledger.authorizationsOf, h.authorizations]

theorem ClaimFrame.attemptsOf (h : ClaimFrame p L L') (k : RequestKey) :
    L'.attemptsOf k = L.attemptsOf k := by
  simp [Ledger.attemptsOf, h.attempts]

theorem ClaimFrame.join (h : ClaimFrame p L L') (t : AttemptRow) : L'.join t = L.join t := by
  simp [Ledger.join, Ledger.authorization, h.authorizations]

theorem ClaimFrame.joinedAttempt (h : ClaimFrame p L L') (i : String) (k : RequestKey)
    (sha : String) : L'.joinedAttempt i k sha = L.joinedAttempt i k sha := by
  have hjoin : L'.join = L.join := funext h.join
  simp [Ledger.joinedAttempt, Ledger.attempt, h.attempts, hjoin]

/-- Two steps raise the same error, or commit ledgers that differ by claims only. -/
def SameStep (p : String) (x x' : Except LedgerError Ledger) : Prop :=
  (∃ e, x = .error e ∧ x' = .error e) ∨
    ∃ M M', x = .ok M ∧ x' = .ok M' ∧ ClaimFrame p M M'

theorem SameStep.bind {α : Type} {x x' : Except LedgerError Ledger}
    {f : Ledger → Except LedgerError (α × Ledger)} (h : SameStep p x x')
    (hf : ∀ M M', ClaimFrame p M M' → (f M').map Prod.fst = (f M).map Prod.fst) :
    (x' >>= f).map Prod.fst = (x >>= f).map Prod.fst := by
  rcases h with ⟨e, rfl, rfl⟩ | ⟨M, M', rfl, rfl, hframe⟩
  · rfl
  · exact hf M M' hframe

/-- Two continuations of one computation answer alike where they answer alike. -/
theorem map_bind_congr {α β γ : Type} {x : Except LedgerError α}
    {f g : α → Except LedgerError (β × γ)}
    (h : ∀ a, x = .ok a → (f a).map Prod.fst = (g a).map Prod.fst) :
    (x >>= f).map Prod.fst = (x >>= g).map Prod.fst := by
  cases hx : x with
  | error => rfl
  | ok a => exact h a hx

theorem insertOutbox_of_used {key : EventKey} {payload : Json} {createdAt : String}
    (h : (key, eventDigest rt key payload) ∈ L.auditOutbox.map fun o => (o.key, o.payloadSha256)) :
    L.insertOutbox rt key payload createdAt = .error .integrity := by
  simp only [Ledger.insertOutbox, require, h, not_true_eq_false, if_false]
  rfl

theorem ClaimFrame.insertOutbox (h : ClaimFrame p L L') {key : EventKey} {payload : Json}
    {createdAt : String} (hkey : key.eventType ≠ .requestClaimed) :
    SameStep p (L.insertOutbox rt key payload createdAt)
      (L'.insertOutbox rt key payload createdAt) := by
  have hevents := h.events key (eventDigest rt key payload) hkey
  by_cases hused : (key, eventDigest rt key payload) ∈
      L.auditOutbox.map fun o => (o.key, o.payloadSha256)
  · exact .inl ⟨.integrity, insertOutbox_of_used hused, insertOutbox_of_used (hevents.mpr hused)⟩
  · refine .inr ⟨_, _, Ledger.insertOutbox_eq_ok.mpr ⟨hused, rfl⟩,
      Ledger.insertOutbox_eq_ok.mpr ⟨fun hu => hused (hevents.mp hu), rfl⟩, ?_⟩
    refine ⟨h.requests, h.authorizations, h.attempts, h.requestResults, fun key' d hkey' => ?_⟩
    simp only [List.map_append, List.mem_append, h.events key' d hkey']
    rfl

theorem ClaimFrame.updateAttempts (h : ClaimFrame p L L') (q : AttemptRow → Bool)
    (s : AttemptState) : ClaimFrame p (L.updateAttempts q s) (L'.updateAttempts q s) := by
  refine ⟨h.requests, h.authorizations, ?_, h.requestResults, h.events⟩
  simp [Ledger.updateAttempts, h.attempts]

/-- An update that selects no request of `p`. -/
theorem ClaimFrame.updateRequests (h : ClaimFrame p L L') {q : RequestRow → Bool}
    {f : RequestRow → RequestRow} (hq : ∀ r, r.principalId = p → q r = false) :
    ClaimFrame p (L.updateRequests q f) (L'.updateRequests q f) := by
  obtain ⟨rs, hrs, hp⟩ := h.requests
  refine ⟨⟨rs, ?_, hp⟩, h.authorizations, h.attempts, h.requestResults, h.events⟩
  simp only [Ledger.updateRequests, hrs, updateWhere_append]
  rw [updateWhere_eq_self fun r hr => hq r (hp r hr)]

variable {stored : RequestLookupResult}

theorem ClaimFrame.closeAttempt (h : ClaimFrame p L L') (c : AttemptCompletion)
    (j : JoinedAttempt) :
    SameStep p (StageA.closeAttempt rt stored c j L) (StageA.closeAttempt rt stored c j L') := by
  have hterminate : SameStep p (StageA.closeAttempt.terminate rt stored c L)
      (StageA.closeAttempt.terminate rt stored c L') := (h.updateAttempts _ _).insertOutbox (by simp)
  unfold StageA.closeAttempt
  cases j.row.state with
  | terminal e o r d =>
    by_cases hsame : e = c.state ∧ o = c.outcomeSha256 ∧
        (c.adapterReceiptSha256.isSome = true → r = c.adapterReceiptSha256)
    · simp only [require, if_pos hsame]
      exact .inr ⟨L, L', rfl, rfl, h⟩
    · simp only [require, if_neg hsame]
      exact .inl ⟨_, rfl, rfl⟩
  | reserved =>
    by_cases hok : c.state = .unknownEffect ∧ c.adapterReceiptSha256 = none
    · simp only [require, if_pos hok]
      exact hterminate
    · simp only [require, if_neg hok]
      exact .inl ⟨_, rfl, rfl⟩
  | receiptRecorded o r =>
    by_cases hok : c.adapterReceiptSha256 = some r
    · simp only [require, if_pos hok]
      exact hterminate
    · simp only [require, if_neg hok]
      exact .inl ⟨_, rfl, rfl⟩

theorem ClaimFrame.insertResult (h : ClaimFrame p L L') {x : ResultRow}
    (hrequest : ∃ r ∈ L.requests, r.key = x.key) :
    SameStep p (L.insertResult x) (L'.insertResult x) := by
  obtain ⟨r, hr, hrk⟩ := hrequest
  obtain ⟨rs, hrs, hp⟩ := h.requests
  have hr' : r ∈ L'.requests := by simp [hrs, hr]
  by_cases hused : x.key ∈ L.requestResults.map ResultRow.key
  · refine .inl ⟨.integrity, ?_, ?_⟩
    · simp only [Ledger.insertResult, require, hused, not_true_eq_false, if_false]
      rfl
    · simp only [Ledger.insertResult, require, h.requestResults, hused, not_true_eq_false,
        if_false]
      rfl
  · refine .inr ⟨_, _, Ledger.insertResult_eq_ok.mpr ⟨⟨hused, r, hr, hrk⟩, rfl⟩,
      Ledger.insertResult_eq_ok.mpr ⟨⟨h.requestResults ▸ hused, r, hr', hrk⟩, rfl⟩, ?_⟩
    exact ⟨⟨rs, hrs, hp⟩, h.authorizations, h.attempts, by simp [h.requestResults], h.events⟩

/-- Storing a result answers the same across claims of another principal. -/
theorem ClaimFrame.storeResult (h : ClaimFrame p L L') (hk : stored.principalId ≠ p)
    (hrequest : ∃ r ∈ L.requests, r.key = stored.key) :
    (StageA.storeResult rt stored L').map Prod.fst =
      (StageA.storeResult rt stored L).map Prod.fst := by
  refine SameStep.bind (h.insertResult hrequest) fun M M' hM => ?_
  refine SameStep.bind ((hM.updateRequests ?_).insertOutbox (by simp)) fun _ _ _ => rfl
  intro r hr
  simp only [decide_eq_false_iff_not, not_and]
  intro hrk
  exact absurd ((congrArg RequestKey.principalId hrk).symm.trans hr) hk

/-- The result of a completion is the same across claims of another principal. -/
theorem ClaimFrame.completeRequestBody (h : ClaimFrame p L L') (hs : L.SchemaOk)
    (hk : stored.principalId ≠ p) (completion : Option AttemptCompletion) :
    (StageA.completeRequestBody rt stored completion L').map Prod.fst =
      (StageA.completeRequestBody rt stored completion L).map Prod.fst := by
  have hselect : selectAttempt? rt stored completion L' = selectAttempt? rt stored completion L := by
    cases completion with
    | none => rfl
    | some c => simp only [selectAttempt?, selectAttempt, h.joinedAttempt]
  have hnonexecuting : NonexecutingCloseOk rt stored L' ↔ NonexecutingCloseOk rt stored L := by
    simp only [NonexecutingCloseOk, h.authorizationsOf]
  unfold StageA.completeRequestBody
  rw [h.request (k := stored.key) hk]
  cases hr : L.request stored.key with
  | none => rfl
  | some r =>
    obtain ⟨hmem, hrk⟩ := (Ledger.request_eq_some hs).mp hr
    simp only [hselect, hnonexecuting, h.resultsOf]
    refine map_bind_congr fun _ _ => map_bind_congr fun _ _ => map_bind_congr fun attempt _ => ?_
    by_cases hterminal : r.state = .terminal
    · simp only [hterminal, if_true, repeatCompletion, h.resultsOf]
      exact map_bind_congr fun _ _ => map_bind_congr fun _ _ => rfl
    simp only [hterminal, if_false]
    refine map_bind_congr fun _ _ => map_bind_congr fun _ _ => map_bind_congr fun _ _ =>
      map_bind_congr fun _ _ => ?_
    cases attempt with
    | none => exact h.storeResult hk ⟨r, hmem, hrk⟩
    | some cj =>
      -- both runs close the attempt, or raise the same error there
      have hclose : SameStep p (StageA.closeAttempt rt stored cj.1 cj.2 L)
          (StageA.closeAttempt rt stored cj.1 cj.2 L') := h.closeAttempt cj.1 cj.2
      rcases hclose with ⟨e, he, he'⟩ | ⟨M, M', hM, hM', hframe⟩
      · simp only [he, he']
      · simp only [hM, hM']
        exact hframe.storeResult hk ⟨r, (closeAttempt_keeps hM).1 ▸ hmem, hrk⟩

/-- A lookup answers the same across claims of another principal. -/
theorem ClaimFrame.lookupRequestResult (h : ClaimFrame p L L') (hL : ControlRelationsOk rt L)
    (hL' : ControlRelationsOk rt L') {k : RequestKey} (hk : k.principalId ≠ p)
    (requestSha256 : String) :
    StageA.lookupRequestResult rt k requestSha256 L' =
      StageA.lookupRequestResult rt k requestSha256 L := by
  have hjoin : L'.join = L.join := funext h.join
  simp only [StageA.lookupRequestResult, hL, hL', h.request hk, h.resultsOf, h.attemptsOf, hjoin]

/-- Claims with other subjects leave the event of a claim as it is. -/
theorem claimEventUsed_runClaims {cs : List Claim} {k : RequestKey} {requestSha256 : String}
    (hk : ∀ c ∈ cs, c.key.subject ≠ k.subject) :
    ClaimEventUsed rt (runClaims rt L cs) k requestSha256 ↔
      ClaimEventUsed rt L k requestSha256 := by
  induction cs generalizing L with
  | nil => rfl
  | cons c cs ih =>
    refine (ih fun d hd => hk d (List.mem_cons_of_mem _ hd)).trans ?_
    show ClaimEventUsed rt (c.run rt L).ledger k requestSha256 ↔ _
    rcases c.ledger_cases rt L with heq | heq <;> rw [heq]
    simp only [ClaimEventUsed, claimedLedger, List.map_append, List.mem_append]
    refine or_iff_left fun hmem => hk c (by simp) ?_
    simp only [List.map_cons, List.map_nil, List.mem_singleton, Prod.mk.injEq,
      Ledger.outboxRow_key] at hmem
    exact (congrArg EventKey.subjectId hmem.1).symm

/-! ## §5 Isolation -/

/-- A call that names a principal: a claim, a lookup or a completion. -/
inductive PrincipalCall where
  | claimRequest (c : Claim)
  | lookupRequestResult (k : RequestKey) (requestSha256 : String)
  | completeRequest (args : CompleteArgs)

def PrincipalCall.principalId : PrincipalCall → String
  | .claimRequest c => c.key.principalId
  | .lookupRequestResult k _ => k.principalId
  | .completeRequest args => args.result.principalId

/-- What a call returns or raises. -/
inductive PrincipalAnswer where
  | claimed (result : Except LedgerError ClaimOutcome)
  | found (result : Except LedgerError (Option RequestLookupResult))
  | completed (result : Except LedgerError Unit)

def PrincipalCall.answer (rt : Runtime) (L : Ledger) : PrincipalCall → PrincipalAnswer
  | .claimRequest c => .claimed (c.run rt L).result
  | .lookupRequestResult k requestSha256 => .found (StageA.lookupRequestResult rt k requestSha256 L)
  | .completeRequest args => .completed (StageA.completeRequest rt args L).result

/-- A claim names a subject that none of the claims names. -/
def PrincipalCall.ApartFrom (cs : List Claim) : PrincipalCall → Prop
  | .claimRequest c => ∀ d ∈ cs, d.key.subject ≠ c.key.subject
  | .lookupRequestResult _ _ | .completeRequest _ => True

/-- What two transactions answer when both ledgers open and their bodies answer alike. -/
theorem transaction_result_congr {α : Type} {body body' : Ledger → Except LedgerError (α × Ledger)}
    (hL : ControlRelationsOk rt L) (hL' : ControlRelationsOk rt L')
    (h : (body' L').map Prod.fst = (body L).map Prod.fst) :
    (transaction rt L' body').result = (transaction rt L body).result := by
  cases hb : body L with
  | error e =>
    cases hb' : body' L' with
    | error e' =>
      rw [hb, hb'] at h
      simp_all [transaction, require, bind, Except.bind, Except.map]
    | ok x => simp [hb, hb', Except.map] at h
  | ok x =>
    cases hb' : body' L' with
    | error e' => simp [hb, hb', Except.map] at h
    | ok x' =>
      rw [hb, hb'] at h
      rw [transaction_of_ok hL hb, transaction_of_ok hL' hb']
      simpa [Except.map] using h

theorem onIntegrity_map {α β : Type} {e : LedgerError} {f : α → β} {x : Except LedgerError α} :
    (onIntegrity e x).map f = onIntegrity e (x.map f) := by
  rcases x with err | a
  · cases err <;> rfl
  · rfl

/-- What the body of a claim answers, read off the ledger. -/
theorem claimRequestBody_map_fst {k : RequestKey} {requestSha256 claimedAt : String} :
    (claimRequestBody rt k requestSha256 claimedAt L).map Prod.fst =
      match L.request k with
      | some row => .ok (if row.requestSha256 = requestSha256 then .duplicate else .conflict)
      | none => if ClaimEventUsed rt L k requestSha256 then .error .integrity else .ok .new := by
  cases hk : L.request k with
  | some row =>
    rw [claimRequestBody_of_claimed hk]
    rfl
  | none =>
    by_cases hevent : ClaimEventUsed rt L k requestSha256
    · have hkey : k ∉ L.requests.map RequestRow.key := by
        rw [List.mem_map]
        rintro ⟨r, hr, rfl⟩
        exact Ledger.request_eq_none.mp hk r hr rfl
      have hinsert : L.insertRequest (claimedRow k requestSha256 claimedAt) =
          .ok { L with requests := L.requests ++ [claimedRow k requestSha256 claimedAt] } :=
        Ledger.insertRequest_eq_ok.mpr ⟨hkey, rfl⟩
      have houtbox : Ledger.insertOutbox
          { L with requests := L.requests ++ [claimedRow k requestSha256 claimedAt] } rt
          (claimEvent k) (requestClaimedPayload requestSha256) claimedAt = .error .integrity :=
        insertOutbox_of_used hevent
      simp only [claimedRow, claimEvent] at hinsert houtbox
      simp only [claimRequestBody, hk, if_pos hevent, hinsert, houtbox, bind, Except.bind,
        Except.map]
    · have hbody : claimRequestBody rt k requestSha256 claimedAt L =
          .ok (.new, claimedLedger rt L k requestSha256 claimedAt) :=
        (claimRequestBody_of_unclaimed hk).mpr ⟨hevent, rfl, rfl⟩
      simp only [hbody, if_neg hevent]
      rfl

/-- Two claims of one pair answer alike where the pair and its event are alike. -/
theorem Claim.run_result_congr {c : Claim} (hL : ControlRelationsOk rt L)
    (hL' : ControlRelationsOk rt L') (hrequest : L'.request c.key = L.request c.key)
    (hevent : ClaimEventUsed rt L' c.key c.requestSha256 ↔
      ClaimEventUsed rt L c.key c.requestSha256) :
    (c.run rt L').result = (c.run rt L).result := by
  simp only [Claim.run, claimRequest]
  cases require (ClaimArgsOk rt c.key c.requestSha256 c.claimedAt) .bindingInvalid with
  | error e => rfl
  | ok u =>
    simp only [checked]
    refine transaction_result_congr hL hL' ?_
    rw [onIntegrity_map, onIntegrity_map, claimRequestBody_map_fst, claimRequestBody_map_fst,
      hrequest]
    simp only [hevent]

/-- Claims that are apart change no answer of another principal. -/
theorem answer_runClaims (h : Accepted rt L) {cs : List Claim} {call : PrincipalCall}
    (hcs : ∀ c ∈ cs, c.key.principalId = p ∧ c.key.Admitted) (hother : call.principalId ≠ p)
    (hapart : SubjectsApart L cs) (hcall : call.ApartFrom cs) :
    call.answer rt (runClaims rt L cs) = call.answer rt L := by
  obtain ⟨haccepted, hframe, -⟩ :=
    runClaims_spec h (fun c hc => (hcs c hc).1) (fun c hc => (hcs c hc).2) hapart
  have hL := h.relations
  have hL' := haccepted.relations
  cases call with
  | claimRequest c =>
    exact congrArg PrincipalAnswer.claimed
      (Claim.run_result_congr hL hL' (hframe.request hother) (claimEventUsed_runClaims hcall))
  | lookupRequestResult k requestSha256 =>
    exact congrArg PrincipalAnswer.found (hframe.lookupRequestResult hL hL' hother requestSha256)
  | completeRequest args =>
    refine congrArg PrincipalAnswer.completed ?_
    simp only [StageA.completeRequest]
    cases args.check rt with
    | error e => rfl
    | ok completion =>
      simp only [checked]
      refine transaction_result_congr hL hL' ?_
      rw [onIntegrity_map, onIntegrity_map]
      have hprincipal : args.result.stored.principalId ≠ p := hother
      exact congrArg _ (hframe.completeRequestBody h.schema hprincipal completion)

end Answers

/-- Two principals are isolated as far as their subjects differ: two admitted pairs can
both be claimed exactly when their subjects are free and distinct, and claims with
subjects of their own change no answer of another principal. -/
theorem principals_isolated (rt : Runtime) (L : Ledger) (h : Accepted rt L) :
    (∀ c c' : Claim, c.Ok rt → c'.Ok rt → c.key ≠ c'.key →
      (BothNew rt L c c' ↔
        ¬ SubjectTaken L c.key ∧ ¬ SubjectTaken L c'.key ∧ c.key.subject ≠ c'.key.subject)) ∧
    ∀ (p : String) (cs : List Claim) (call : PrincipalCall),
      (∀ c ∈ cs, c.key.principalId = p ∧ c.key.Admitted) → call.principalId ≠ p →
        SubjectsApart L cs → call.ApartFrom cs →
          call.answer rt (runClaims rt L cs) = call.answer rt L :=
  ⟨fun _ _ hc hc' _ => bothNew_iff h hc hc',
    fun _ _ _ hcs hother hapart hcall => answer_runClaims h hcs hother hapart hcall⟩

/-- A claim at the first second of 2026. -/
def newYearClaim (principalId requestId : String) : Claim :=
  ⟨⟨principalId, requestId⟩, requestDigest, "2026-01-01T00:00:00+00:00"⟩

theorem newYearClaim_ok (principalId requestId : String) (sha256 : String → String)
    (h : ∀ s, IsSha256 (sha256 s)) (hk : (⟨principalId, requestId⟩ : RequestKey).Admitted) :
    (newYearClaim principalId requestId).Ok (.ofInstants Runtime.newYear sha256 h) :=
  have hdigest : IsSha256 requestDigest := by decide
  have hinstant : (Runtime.ofInstants Runtime.newYear sha256 h).IsOffsetTimestamp
      "2026-01-01T00:00:00+00:00" := ⟨by decide, by decide, rfl⟩
  ⟨hk, hdigest, hinstant⟩

/-- The principals `alpha` and `beta` claim the same request identifier. -/
theorem principals_isolated_alpha_beta :
    let rt := newYearRuntime
    BothNew rt .empty (newYearClaim "alpha" "r-1") (newYearClaim "beta" "r-1") ∧
      (PrincipalCall.claimRequest (newYearClaim "beta" "r-1")).answer rt
          (runClaims rt .empty [newYearClaim "alpha" "r-1"]) =
        (PrincipalCall.claimRequest (newYearClaim "beta" "r-1")).answer rt .empty := by
  intro rt
  obtain ⟨hboth, hanswer⟩ := principals_isolated rt .empty (.empty rt)
  constructor
  · exact (hboth _ _ (newYearClaim_ok _ _ _ _ (by decide)) (newYearClaim_ok _ _ _ _ (by decide))
      (by decide)).mpr ⟨by decide, by decide, by decide⟩
  · exact hanswer "alpha" _ _ (by decide) (by decide) (by decide)
      (by simp [PrincipalCall.ApartFrom]; decide)

/-- The principal `a:b` claims `c`, and the principal `a` claims `b:c`. -/
theorem principals_not_isolated :
    ¬ ∃ (sha256 : String → String) (h : ∀ s, IsSha256 (sha256 s)),
      ∀ (L : Ledger) (c c' : Claim),
        Accepted (.ofInstants Runtime.newYear sha256 h) L →
        c.Ok (.ofInstants Runtime.newYear sha256 h) →
        c'.Ok (.ofInstants Runtime.newYear sha256 h) → c.key ≠ c'.key →
        L.request c.key = none → L.request c'.key = none →
          BothNew (.ofInstants Runtime.newYear sha256 h) L c c' := by
  rintro ⟨sha256, h, hall⟩
  have hc := newYearClaim_ok "a:b" "c" sha256 h (by decide)
  have hc' := newYearClaim_ok "a" "b:c" sha256 h (by decide)
  have hboth := hall .empty _ _ (.empty _) hc hc' (by decide) rfl rfl
  exact ((bothNew_iff (.empty _) hc hc').mp hboth).2.2 (by decide)

end DecisionFirewall.StageA
