import SinkCheck.Http.Client
import SinkCheck.Proofs.Http.Records
import SinkCheck.Proofs.Json.Grammar
import SinkCheck.Proofs.Settings.Texts
import SinkCheck.Service.Probe
/-
  Failover from node to node.

  A request goes to one node after the other until a node gives a final answer.  A node *decides* a
  request if its answer is the first one that does not come from a gateway without a service
  (`DecidedBy`).  Then the nodes up to it are contacted, each once and in order, and those behind it are
  left alone; the failures of the nodes before it are forgotten.  If no node decides, then all of them
  are contacted, and the failure of the last one stands for all.

  What comes of a contact is left open, so a node that stands at several places of the row may answer
  differently at each (`exists_attempts_eq`).

  Main statements: `firstFinal_of_decidedBy` and `firstFinal_of_passed`, the two ends of a search through
  the nodes; `failover`, what they mean for the requests, the life and the version of the service;
  `readOff_contact`, the same of exchanges over a network.
-/

namespace SinkCheck

open Http

namespace Http

/-- What came of the contacts with the nodes, one after the other. -/
abbrev Attempts (ε : Type) := List (Logged ε (Except ClientError Response))

/-! ## The deciding node -/

/-- Does the node at place `i` decide with the answer `r`?  Its code is none of a gateway without a
service, and whatever was answered before it is. -/
structure DecidedBy (answers : List (Except ClientError Response)) (i : Nat) (r : Response) : Prop where
  answer : answers[i]? = some (.ok r)
  final : r.code ≠ 502 ∧ r.code ≠ 503 ∧ r.code ≠ 504
  earlier : ∀ j < i, ∀ r', answers[j]? = some (.ok r') →
    r'.code = 502 ∨ r'.code = 503 ∨ r'.code = 504

/-- Is the node passed over, having given no answer or that of a gateway without a service? -/
def Passed (answer : Except ClientError Response) : Prop :=
  ∀ r, answer = .ok r → r.code = 502 ∨ r.code = 503 ∨ r.code = 504

/-- The failure of a node that is passed over. -/
def failureOf : Except ClientError Response → ClientError
  | .ok r => r.failure
  | .error e => e

theorem Status.isUnavailable_iff {code : Nat} :
    Status.isUnavailable code = true ↔ code = 502 ∨ code = 503 ∨ code = 504 := by
  simp [Status.isUnavailable, or_assoc]

theorem Status.isSuccess_iff {code : Nat} :
    Status.isSuccess code = true ↔ 200 ≤ code ∧ code < 300 := by
  simp [Status.isSuccess]

theorem passed_or_final (answer : Except ClientError Response) :
    Passed answer ∨ ∃ r, answer = .ok r ∧ r.code ≠ 502 ∧ r.code ≠ 503 ∧ r.code ≠ 504 := by
  cases answer with
  | error e =>
    refine Or.inl fun r hr => ?_
    cases hr
  | ok r =>
    by_cases h : r.code = 502 ∨ r.code = 503 ∨ r.code = 504
    · refine Or.inl fun r' hr => ?_
      cases hr
      exact h
    · rw [not_or, not_or] at h
      exact Or.inr ⟨r, rfl, h⟩

variable {answer : Except ClientError Response} {answers : List (Except ClientError Response)}
  {i : Nat} {r : Response}

theorem DecidedBy.head (hfinal : r.code ≠ 502 ∧ r.code ≠ 503 ∧ r.code ≠ 504) :
    DecidedBy (.ok r :: answers) 0 r :=
  ⟨rfl, hfinal, fun _ h => absurd h (Nat.not_lt_zero _)⟩

/-- Behind a node that is passed over the others decide. -/
theorem DecidedBy.tail (hpassed : Passed answer) (h : DecidedBy answers i r) :
    DecidedBy (answer :: answers) (i + 1) r := by
  refine ⟨h.answer, h.final, fun j hj r' hr' => ?_⟩
  cases j with
  | zero => exact hpassed r' (Option.some.inj hr')
  | succ j => exact h.earlier j (Nat.lt_of_succ_lt_succ hj) r' hr'

/-- A node that decides behind others has all of them passed over. -/
theorem DecidedBy.of_cons (h : DecidedBy (answer :: answers) (i + 1) r) :
    Passed answer ∧ DecidedBy answers i r := by
  refine ⟨fun r' hr' => h.earlier 0 (Nat.succ_pos i) r' (congrArg some hr'), h.answer, h.final, ?_⟩
  intro j hj r' hr'
  exact h.earlier (j + 1) (Nat.succ_lt_succ hj) r' hr'

/-- Of two nodes that decide neither is before the other, so there is one answer. -/
theorem DecidedBy.eq {j : Nat} {r' : Response} (h : DecidedBy answers i r) (h' : DecidedBy answers j r') :
    r = r' := by
  rcases Nat.lt_trichotomy i j with hlt | rfl | hgt
  · have := h'.earlier i hlt r h.answer
    have := h.final
    omega
  · exact Except.ok.inj (Option.some.inj (h.answer.symm.trans h'.answer))
  · have := h.earlier j hgt r' h'.answer
    have := h'.final
    omega

/-- Either a node decides or all of them are passed over. -/
theorem exists_decidedBy_or_passed (answers : List (Except ClientError Response)) :
    (∃ i r, DecidedBy answers i r) ∨ ∀ answer ∈ answers, Passed answer := by
  induction answers with
  | nil => exact Or.inr (List.forall_mem_nil _)
  | cons answer answers ih =>
    rcases passed_or_final answer with hpassed | ⟨r, rfl, hfinal⟩
    · rcases ih with ⟨i, r, h⟩ | hall
      · exact Or.inl ⟨i + 1, r, h.tail hpassed⟩
      · exact Or.inr (List.forall_mem_cons.mpr ⟨hpassed, hall⟩)
    · exact Or.inl ⟨0, r, DecidedBy.head hfinal⟩

theorem passed_of_not_decidedBy (h : ∀ i r, ¬DecidedBy answers i r) :
    ∀ answer ∈ answers, Passed answer := by
  rcases exists_decidedBy_or_passed answers with ⟨i, r, hi⟩ | hall
  · exact absurd hi (h i r)
  · exact hall

/-! ## The search through the nodes -/

section Search

variable {ε : Type} {attempt : Logged ε (Except ClientError Response)} {attempts : Attempts ε}
  {failure : ClientError}

theorem firstFinal_eq_id {α : Type} (send : α → Logged ε (Except ClientError Response))
    (failure : ClientError) (nodes : List α) :
    firstFinal send failure nodes = firstFinal id failure (nodes.map send) := by
  induction nodes generalizing failure with
  | nil => rfl
  | cons node nodes ih =>
    rw [List.map_cons, firstFinal_cons, firstFinal_cons]
    simp only [ih]
    rfl

/-- The search ends at a final answer. -/
theorem firstFinal_cons_of_final (h : attempt.value = .ok r)
    (hfinal : r.code ≠ 502 ∧ r.code ≠ 503 ∧ r.code ≠ 504) :
    firstFinal id failure (attempt :: attempts) = ⟨.ok r, attempt.log⟩ := by
  have hcode : ¬Status.isUnavailable r.code = true := by
    rw [Status.isUnavailable_iff, not_or, not_or]
    exact hfinal
  rw [firstFinal_cons]
  ext <;> simp [h, hcode]

/-- The search goes on behind a node that is passed over, with the failure of that node. -/
theorem firstFinal_cons_of_passed (h : Passed attempt.value) :
    firstFinal id failure (attempt :: attempts) =
      ⟨(firstFinal id (failureOf attempt.value) attempts).value,
        attempt.log ++ (firstFinal id (failureOf attempt.value) attempts).log⟩ := by
  rw [firstFinal_cons]
  cases hv : attempt.value with
  | error e => ext <;> simp [hv, failureOf]
  | ok r =>
    have hcode : Status.isUnavailable r.code = true := Status.isUnavailable_iff.mpr (h r hv)
    ext <;> simp [hv, hcode, failureOf]

/-- **A decided search** answers with the deciding node, and contacts the nodes up to it. -/
theorem firstFinal_of_decidedBy (h : DecidedBy (attempts.map Logged.value) i r) :
    firstFinal id failure attempts = ⟨.ok r, (attempts.take (i + 1)).flatMap Logged.log⟩ := by
  -- the failure changes from node to node, and the place of the deciding node counts down
  induction attempts generalizing failure i with
  | nil => cases h.answer
  | cons attempt attempts ih =>
    rw [List.map_cons] at h
    cases i with
    | zero =>
      rw [firstFinal_cons_of_final (Option.some.inj h.answer) h.final]
      simp
    | succ i =>
      obtain ⟨hpassed, hrest⟩ := h.of_cons
      rw [firstFinal_cons_of_passed hpassed, ih hrest, List.take_succ_cons, List.flatMap_cons]

/-- **A search that nobody decides** contacts all nodes and fails as the last one did. -/
theorem firstFinal_of_passed (h : ∀ answer ∈ attempts.map Logged.value, Passed answer) :
    firstFinal id failure attempts =
      ⟨.error ((attempts.getLast?.map fun last => failureOf last.value).getD failure),
        attempts.flatMap Logged.log⟩ := by
  induction attempts generalizing failure with
  | nil => rfl
  | cons attempt attempts ih =>
    rw [List.map_cons, List.forall_mem_cons] at h
    rw [firstFinal_cons_of_passed h.1, ih h.2, List.getLast?_cons, List.flatMap_cons]
    cases attempts.getLast? <;> rfl

end Search

/-! ## What an answer means -/

/-- What an answer means for the life of the service. -/
theorem ofAnswer_isAlive_ok (r : Response) :
    Liveness.ofAnswer (isAlive (.ok r)) =
      if 200 ≤ r.code ∧ r.code < 300 then .reachable
      else if r.code = 404 then .unreachable ""
      else if r.code = 403 then .denied
      else .unreachable r.failure.message := by
  simp only [isAlive, Status.isSuccess_iff]
  split
  · rfl
  · split
    · rfl
    · have hforbidden : r.failure.isForbidden = decide (r.code = 403) := rfl
      simp only [Liveness.ofAnswer, hforbidden, decide_eq_true_eq]

theorem ofAnswer_isAlive_ok_eq_reachable_iff :
    Liveness.ofAnswer (isAlive (.ok r)) = .reachable ↔ 200 ≤ r.code ∧ r.code < 300 := by
  rw [ofAnswer_isAlive_ok]
  constructor
  · intro h
    split at h
    · next hsuccess => exact hsuccess
    · split at h
      · cases h
      · split at h <;> cases h
  · exact fun hsuccess => if_pos hsuccess

theorem ofAnswer_isAlive_ok_eq_denied_iff :
    Liveness.ofAnswer (isAlive (.ok r)) = .denied ↔ r.code = 403 := by
  rw [ofAnswer_isAlive_ok]
  constructor
  · intro h
    split at h
    · cases h
    · split at h
      · cases h
      · split at h
        · next hforbidden => exact hforbidden
        · cases h
  · intro hforbidden
    rw [if_neg (by omega), if_neg (by omega), if_pos hforbidden]

/-- A failure that does not forbid leaves the service unreachable. -/
theorem ofAnswer_isAlive_error {e : ClientError} (h : e.isForbidden = false) :
    Liveness.ofAnswer (isAlive (.error e)) = .unreachable e.message := by
  simp only [isAlive, Liveness.ofAnswer, h, Bool.false_eq_true, if_false]

/-- A node that is passed over forbids nothing, as failures without an answer have no code. -/
theorem isForbidden_failureOf (hpassed : Passed answer)
    (hcode : ∀ e, answer = .error e → e.code? = none) : (failureOf answer).isForbidden = false := by
  cases answer with
  | error e =>
    show (e.code? == some 403) = false
    rw [hcode e rfl]
    rfl
  | ok r =>
    have hr := hpassed r rfl
    show decide (r.code = 403) = false
    exact decide_eq_false (by omega)

/-- Does a body tell a version?  It is JSON, spelled with this grammar, and a record that tells it. -/
def Body.TellsVersion (body : Body) (v : String) : Prop :=
  ∃ w, Json.Written.SpelledBy w body.bytes ∧ Http.TellsVersion v w

/-- A body tells the version that is read from it. -/
theorem Body.tellsVersion_iff {body : Body} {v : String} :
    ((Json.Written.ofBytes? body.bytes).bind serverInfo?).map ServerInfo.version = some v ↔
      body.TellsVersion v := by
  simp only [Option.map_eq_some_iff, Option.bind_eq_some_iff, TellsVersion, ← exists_serverInfo?_iff,
    Json.Written.ofBytes?_eq_some_iff]
  constructor
  · rintro ⟨told, ⟨w, hw, hread⟩, hv⟩
    exact ⟨w, hw, told, hread, hv⟩
  · rintro ⟨w, hw, told, hread, hv⟩
    exact ⟨told, ⟨w, hw, hread⟩, hv⟩

/-- The version that an answer tells is the one in the body of a success. -/
theorem toOption_serverInfo_ok {v : String} :
    (serverInfo (.ok r)).toOption.map ServerInfo.version = some v ↔
      (200 ≤ r.code ∧ r.code < 300) ∧ r.body.TellsVersion v := by
  simp only [serverInfo, Status.isSuccess_iff, ← Body.tellsVersion_iff]
  by_cases hcode : 200 ≤ r.code ∧ r.code < 300
  · rw [if_pos hcode, and_iff_right hcode]
    cases (Json.Written.ofBytes? r.body.bytes).bind serverInfo? <;> rfl
  · rw [if_neg hcode]
    simp [Except.toOption, hcode]

/-! ## Requests, life and version -/

/-- A request fails over: it is decided by the first node that can, after contacts with the nodes up to
it, or fails as the last node does, after contacts with all of them. -/
structure FailsOver {ε : Type} (attempts : Attempts ε) (sent : Logged ε (Except ClientError Response)) :
    Prop where
  decided : ∀ i r, DecidedBy (attempts.map Logged.value) i r →
    sent = ⟨.ok r, (attempts.take (i + 1)).flatMap Logged.log⟩
  failed : (∀ i r, ¬DecidedBy (attempts.map Logged.value) i r) → ∃ last,
    attempts.getLast? = some last ∧ sent = ⟨.error (failureOf last.value), attempts.flatMap Logged.log⟩

/-- What is found out of the life of the service is read off the answer of the deciding node alone, or
off the failure of the last node where none decides. -/
structure ReadOff (answers : List (Except ClientError Response)) (found : Liveness) : Prop where
  reachable_iff : found = .reachable ↔ ∃ i r, DecidedBy answers i r ∧ 200 ≤ r.code ∧ r.code < 300
  denied_iff : found = .denied ↔ ∃ i r, DecidedBy answers i r ∧ r.code = 403
  unknown : ∀ i r, DecidedBy answers i r → r.code = 404 → found = .unreachable ""
  refused : ∀ i r, DecidedBy answers i r → ¬(200 ≤ r.code ∧ r.code < 300) → r.code ≠ 403 →
    r.code ≠ 404 → found = .unreachable r.failure.message
  silent : (∀ i r, ¬DecidedBy answers i r) → ∃ last,
    answers.getLast? = some last ∧ found = .unreachable (failureOf last).message

namespace FailsOver

variable {ε : Type} {attempts : Attempts ε} {sent : Logged ε (Except ClientError Response)}

/-- What is found of life if a node decides. -/
theorem liveness_of_decidedBy (h : FailsOver attempts sent)
    (hi : DecidedBy (attempts.map Logged.value) i r) :
    Liveness.ofAnswer (isAlive sent.value) = Liveness.ofAnswer (isAlive (.ok r)) := by
  rw [h.decided i r hi]

/-- What is found of life if no node decides: the last one is to blame, and it forbade nothing. -/
theorem liveness_of_not_decidedBy (h : FailsOver attempts sent)
    (hcode : ∀ attempt ∈ attempts, ∀ e, attempt.value = .error e → e.code? = none)
    (hnone : ∀ i r, ¬DecidedBy (attempts.map Logged.value) i r) :
    ∃ last, (attempts.map Logged.value).getLast? = some last ∧
      Liveness.ofAnswer (isAlive sent.value) = .unreachable (failureOf last).message := by
  obtain ⟨last, hlast, hsent⟩ := h.failed hnone
  have hmem : last ∈ attempts := List.mem_of_getLast? hlast
  have hpassed : Passed last.value :=
    passed_of_not_decidedBy hnone last.value (List.mem_map_of_mem hmem)
  refine ⟨last.value, by rw [List.getLast?_map, hlast]; rfl, ?_⟩
  rw [hsent]
  exact ofAnswer_isAlive_error (isForbidden_failureOf hpassed (hcode last hmem))

/-- Whatever is found other than an unreachable service was said by the deciding node. -/
theorem liveness_eq_iff (h : FailsOver attempts sent)
    (hcode : ∀ attempt ∈ attempts, ∀ e, attempt.value = .error e → e.code? = none)
    {found : Liveness} (hfound : ∀ detail, found ≠ .unreachable detail) :
    Liveness.ofAnswer (isAlive sent.value) = found ↔
      ∃ i r, DecidedBy (attempts.map Logged.value) i r ∧
        Liveness.ofAnswer (isAlive (.ok r)) = found := by
  constructor
  · intro hsent
    by_cases hex : ∃ i r, DecidedBy (attempts.map Logged.value) i r
    · obtain ⟨i, r, hi⟩ := hex
      exact ⟨i, r, hi, (h.liveness_of_decidedBy hi).symm.trans hsent⟩
    · obtain ⟨last, -, hlast⟩ := h.liveness_of_not_decidedBy hcode fun i r hi => hex ⟨i, r, hi⟩
      exact absurd (hsent.symm.trans hlast) (hfound _)
  · rintro ⟨i, r, hi, hr⟩
    exact (h.liveness_of_decidedBy hi).trans hr

/-- **Life is read off the answers** if it was found by a request that fails over. -/
theorem readOff (h : FailsOver attempts sent)
    (hcode : ∀ attempt ∈ attempts, ∀ e, attempt.value = .error e → e.code? = none) :
    ReadOff (attempts.map Logged.value) (Liveness.ofAnswer (isAlive sent.value)) := by
  refine ⟨?_, ?_, ?_, ?_, h.liveness_of_not_decidedBy hcode⟩
  · rw [h.liveness_eq_iff hcode fun detail he => by cases he]
    simp only [ofAnswer_isAlive_ok_eq_reachable_iff]
  · rw [h.liveness_eq_iff hcode fun detail he => by cases he]
    simp only [ofAnswer_isAlive_ok_eq_denied_iff]
  · intro i r hi hunknown
    rw [h.liveness_of_decidedBy hi, ofAnswer_isAlive_ok, if_neg (by omega), if_pos hunknown]
  · intro i r hi hsuccess hforbidden hunknown
    rw [h.liveness_of_decidedBy hi, ofAnswer_isAlive_ok, if_neg hsuccess, if_neg hunknown,
      if_neg hforbidden]

/-- A version is told if the deciding node succeeds and its body tells it. -/
theorem version_eq_some_iff (h : FailsOver attempts sent) (v : String) :
    (serverInfo sent.value).toOption.map ServerInfo.version = some v ↔
      ∃ i r, DecidedBy (attempts.map Logged.value) i r ∧ (200 ≤ r.code ∧ r.code < 300) ∧
        r.body.TellsVersion v := by
  constructor
  · intro hv
    by_cases hex : ∃ i r, DecidedBy (attempts.map Logged.value) i r
    · obtain ⟨i, r, hi⟩ := hex
      rw [h.decided i r hi] at hv
      exact ⟨i, r, hi, toOption_serverInfo_ok.mp hv⟩
    · obtain ⟨last, -, hsent⟩ := h.failed fun i r hi => hex ⟨i, r, hi⟩
      rw [hsent] at hv
      cases hv
  · rintro ⟨i, r, hi, hr⟩
    rw [h.decided i r hi]
    exact toOption_serverInfo_ok.mpr hr

end FailsOver

/-! ## Failures of exchanges -/

theorem Mishap.code?_failure (m : Mishap) (node : Url) : (m.failure node).code? = none := by
  cases m <;> rfl

section Exchange

variable {ε : Type} {transport : Transport ε} {proxy : Option Proxy} {method : Method} {e : ClientError}

theorem exists_mishap_of_follow {start hop : Hop} {left : Nat}
    (h : (follow transport proxy method start left hop).value = .error e) :
    ∃ m : Mishap, e = m.failure start.url := by
  induction left generalizing hop with
  | zero =>
    rw [follow] at h
    simp only [Logged.value_bind] at h
    split at h
    · cases h
    · next m _ => exact ⟨m, (Except.error.inj h).symm⟩
    · exact ⟨.endless, (Except.error.inj h).symm⟩
  | succ left ih =>
    rw [follow] at h
    simp only [Logged.value_bind] at h
    split at h
    · cases h
    · next m _ => exact ⟨m, (Except.error.inj h).symm⟩
    · exact ⟨.unusable, (Except.error.inj h).symm⟩
    · exact ih h

/-- **An exchange that fails** does so by a mishap, and names the address of the node. -/
theorem exists_mishap_of_exchange {credentials : Option (String × String)} {node : Url}
    (h : (exchange transport proxy credentials method node).value = .error e) :
    ∃ m : Mishap, e = m.failure (takeCredentials node).1 := by
  simp only [exchange] at h
  split at h
  · exact ⟨.unusable, (Except.error.inj h).symm⟩
  · obtain ⟨m, rfl⟩ := exists_mishap_of_follow h
    exact ⟨m, rfl⟩

/-- An exchange over a network that fails has no answer of the service, so its failure has no code. -/
theorem code?_of_exchange {credentials : Option (String × String)} {node : Url}
    (h : (exchange transport proxy credentials method node).value = .error e) : e.code? = none := by
  obtain ⟨m, rfl⟩ := exists_mishap_of_exchange h
  exact Mishap.code?_failure m _

end Exchange

theorem nodes?_eq_ok_iff {parse : String → Except Url.Fault Url} {texts : List String}
    {nodes : List Url} : nodes? parse texts = .ok nodes ↔ texts.map parse = nodes.map .ok := by
  induction texts generalizing nodes with
  | nil => cases nodes <;> simp [nodes?]
  | cons text texts ih =>
    rw [nodes?, List.map_cons]
    cases hu : parse text with
    | error f => cases nodes <;> simp
    | ok u =>
      cases nodes with
      | nil => cases nodes? parse texts <;> simp
      | cons node nodes =>
        rw [List.map_cons, List.cons.injEq, ← ih]
        cases nodes? parse texts <;> simp

end Http

namespace HttpClient

variable {ε : Type} {s : Settings} {c : HttpClient} {contact : Contact ε}

/-- A client that settings describe is open and has a node for each address, one at least. -/
theorem nodes_of_ofAddresses {parse : String → Except Url.Fault Url}
    (h : ofAddresses parse s = .ok c) :
    s.connectionUrls.map parse = c.nodes.map .ok ∧ c.nodes ≠ [] ∧ c.isOpen = true := by
  unfold ofAddresses at h
  split at h
  · cases h
  · cases h
  · next nodes hne hnodes =>
    split at h
    · cases h
    · cases h
      exact ⟨nodes?_eq_ok_iff.mp hnodes, fun hnil => hne hnil, rfl⟩

/-- What comes of the contacts with the nodes, in their order. -/
def attempts (c : HttpClient) (contact : Contact ε) : Attempts ε :=
  c.nodes.zipIdx.map fun p => contact p.2 p.1

theorem length_attempts (c : HttpClient) (contact : Contact ε) :
    (c.attempts contact).length = c.nodes.length := by
  rw [attempts, List.length_map, List.length_zipIdx]

/-- Any row of outcomes may come of the contacts with the nodes. -/
theorem exists_attempts_eq (c : HttpClient) (outcomes : Attempts ε)
    (h : outcomes.length = c.nodes.length) : ∃ contact, c.attempts contact = outcomes := by
  refine ⟨fun place _ => outcomes[place]?.getD (pure (.error noNodes)), ?_⟩
  refine List.ext_getElem? fun i => ?_
  simp only [attempts, List.getElem?_map, List.getElem?_zipIdx]
  by_cases hi : i < c.nodes.length
  · simp [hi, h]
  · simp [hi, h]

theorem send_eq (h : c.isOpen = true) : c.send contact = firstFinal id noNodes (c.attempts contact) := by
  rw [send, if_pos h, firstFinal_eq_id, attempts]

/-- **A request fails over** from node to node. -/
theorem failsOver_send (hopen : c.isOpen = true) (hne : c.nodes ≠ []) (contact : Contact ε) :
    FailsOver (c.attempts contact) (c.send contact) := by
  rw [send_eq hopen]
  refine ⟨fun i r hi => firstFinal_of_decidedBy hi, fun hnone => ?_⟩
  have hattempts : c.attempts contact ≠ [] := by
    rw [ne_eq, ← List.length_eq_zero_iff, length_attempts, List.length_eq_zero_iff]
    exact hne
  refine ⟨(c.attempts contact).getLast hattempts, List.getLast?_eq_some_getLast hattempts, ?_⟩
  rw [firstFinal_of_passed (passed_of_not_decidedBy hnone), List.getLast?_eq_some_getLast hattempts]
  rfl

/-- Over a network the life of the service is read off without further conditions. -/
theorem readOff_contact (hopen : c.isOpen = true) (hne : c.nodes ≠ []) (transport : Transport ε) :
    ReadOff ((c.attempts (c.contact transport .head)).map Logged.value)
      (c.client (c.contact transport)).liveness.value := by
  refine (failsOver_send hopen hne (c.contact transport .head)).readOff fun attempt hattempt e he => ?_
  obtain ⟨p, -, rfl⟩ := List.mem_map.mp hattempt
  exact code?_of_exchange he

/-- Settings with four addresses, one of them named twice. -/
def fourNodes : Settings := (Properties.ofList
  [("connection.url", "http://[::1]:1, http://[::1]:2, http://[::1]:2, http://[::1]:3")]).settings

/-- The client of these settings. -/
def rowOfFour : HttpClient where
  nodes := [1, 2, 2, 3].map fun port =>
    ⟨"http", "", "", some (.ipv6 [0, 0, 0, 0, 0, 0, 0, 1]), some port, .segments [""], none, none⟩
  credentials := none
  proxy := none
  isOpen := true

/-- Nodes in trouble: the second address answers differently when it is asked again. -/
def troubled (body : Body) : Method → List (Except ClientError Response)
  | .head => [.error (.transport "connection refused"), .ok ⟨503, ""⟩, .ok ⟨403, ""⟩, .ok ⟨200, ""⟩]
  | .get => [.ok ⟨502, ""⟩, .error (.transport "timed out"), .ok ⟨200, body⟩, .ok ⟨404, ""⟩]

/-- The contacts with these nodes, which log the places. -/
def troubledContact (body : Body) (method : Method) : Contact Nat := fun place _ =>
  ⟨(troubled body method)[place]?.getD (.error noNodes), [place]⟩

/-- Bodies, each with the version that it tells.  A byte that is no character spoils the version, but not
a member that is skipped. -/
def toldVersions : List (Body × Option String) :=
  let spoiled (head tail : Body) : Body := ⟨head.bytes ++ 0xFF :: tail.bytes⟩
  [("\x7b\"version\": \x7b\"number\": \"7.17.0\"\x7d\x7d", some "7.17.0"),
   ("[null, [\"2\\u002e11.0\", \"opensearch\"]]\n", some "2.11.0"),
   ("\x7b\"version\": \x7b\"lucene\": [\"\\ud800\"], \"number\": \"8.é\"\x7d, \"cluster_name\": \"kin\"\x7d",
     some "8.é"),
   (spoiled "\x7b\"name\": \"" "\", \"version\": [\"9\", null]\x7d", some "9"),
   (spoiled "\x7b\"version\": [\"" "\", null]\x7d", none),
   ("", none), ("\x7b\x7d", none), ("[null, \"7.17.0\"]", none), ("[null, [\"7.17.0\"]]", none),
   ("\x7b\"version\": \x7b\"numbers\": \"7.17.0\"\x7d\x7d", none),
   ("\x7b\"version\": \x7b\"number\": 7.17\x7d\x7d", none),
   ("\x7b\"version\": [\"7\", null], \"\\u0076ersion\": [\"7\", null]\x7d", none),
   ("\x7b\"version\": [\"7\", null], \"cluster_name\": 5\x7d", none),
   ("\x7b\"version\": [\"7\", null]\x7d,", none)]

end HttpClient

end SinkCheck
