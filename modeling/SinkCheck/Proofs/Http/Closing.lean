import SinkCheck.Proofs.Http.Failover
/-
  A client that is used again and again, and closed at some time.

  All that a client keeps from one use to the next is whether it is still open.  So a row of uses falls
  into two parts.  Up to the first closing each request is answered as if it were the only one, from what
  the nodes do at that time (`reply`); what they did before, and which of them answered, is forgotten.
  From then on nothing is asked of any node: requests are refused, and closing again is no failure
  (`refusal`).

  Main statements: `performAll_of_closed` and `performAll_of_open`, the run of a closed client and that of
  an open one, and `performAll_closes_for_good`, what each use comes to by its place in the row.
-/

namespace SinkCheck

open Http

namespace HttpClient

variable {ε : Type} {c : HttpClient} {turn : Turn ε}

/-- What a closed client answers. -/
def refusal : Use → Answer
  | .ping => .alive (.error (.other "Client is closed"))
  | .info => .told (.error (.other "Client is closed"))
  | .close => .released (.ok ())

/-- What an open client answers, if this comes of the contacts with its nodes. -/
def reply (attempts : Method → Attempts ε) : Use → Logged ε Answer
  | .ping => do
    let answer ← firstFinal id noNodes (attempts .head)
    pure (.alive (isAlive answer))
  | .info => do
    let answer ← firstFinal id noNodes (attempts .get)
    pure (.told (serverInfo answer))
  | .close => pure (.released (.ok ()))

/-- What the client answers in a turn while it is open. -/
def replyIn (c : HttpClient) (turn : Turn ε) : Logged ε Answer :=
  reply (fun method => c.attempts (turn.contact method)) turn.use

/-! ## One use -/

/-- **An open client** answers from the contacts of the turn, and only closing changes it. -/
theorem step_of_open (h : c.isOpen = true) (turn : Turn ε) :
    c.step turn = (c.replyIn turn, if turn.use = .close then c.close else c) := by
  have hsend : ∀ contact : Contact ε, c.send contact = firstFinal id noNodes (c.attempts contact) :=
    fun contact => send_eq h
  rw [step, replyIn]
  cases turn.use with
  | ping =>
    refine Prod.ext ?_ rfl
    ext <;> simp [Client.perform, client, reply, hsend]
  | info =>
    refine Prod.ext ?_ rfl
    ext <;> simp [Client.perform, client, reply, hsend]
  | close => rfl

/-- **A closed client** refuses, contacts no node, and stays as it is. -/
theorem step_of_closed (h : c.isOpen = false) (turn : Turn ε) :
    c.step turn = (pure (refusal turn.use), c) := by
  have hclose : c.close = c := by
    rw [close, ← h]
  rw [step, hclose, ite_self]
  refine Prod.ext ?_ rfl
  cases turn.use with
  | ping =>
    show Answer.alive <$> (c.send (turn.contact .head) >>= fun answer => pure (isAlive answer)) = _
    rw [send_closed h]
    rfl
  | info =>
    show Answer.told <$> (c.send (turn.contact .get) >>= fun answer => pure (serverInfo answer)) = _
    rw [send_closed h]
    rfl
  | close => rfl

/-! ## A row of uses -/

theorem performAll_cons (c : HttpClient) (turn : Turn ε) (turns : List (Turn ε)) :
    c.performAll (turn :: turns) = (do
      let answer ← (c.step turn).1
      let answers ← (c.step turn).2.performAll turns
      pure (answer :: answers)) := rfl

/-- **The run of a closed client** is a row of refusals. -/
theorem performAll_of_closed (h : c.isOpen = false) (turns : List (Turn ε)) :
    c.performAll turns = pure (turns.map fun turn => refusal turn.use) := by
  induction turns with
  | nil => rfl
  | cons turn turns ih =>
    rw [performAll_cons, step_of_closed h, pure_bind, ih, pure_bind, List.map_cons]

/-- **The run of an open client** is a row of replies, one for each turn up to the first closing, and
then a row of refusals. -/
theorem performAll_of_open (h : c.isOpen = true) (turns : List (Turn ε)) :
    c.performAll turns = (do
      let answers ← (turns.takeWhile fun turn => turn.use ≠ .close).mapM c.replyIn
      pure (answers ++
        (turns.dropWhile fun turn => turn.use ≠ .close).map fun turn => refusal turn.use)) := by
  induction turns with
  | nil => rfl
  | cons turn turns ih =>
    rw [performAll_cons, step_of_open h]
    by_cases hclose : turn.use = .close
    · have hclosed : c.close.isOpen = false := rfl
      have hreply : c.replyIn turn = pure (refusal turn.use) := by rw [replyIn, hclose]; rfl
      simp [hclose, performAll_of_closed hclosed, hreply]
    · simp [hclose, ih]

/-- The answer to a use depends on its turn and on whether the client was closed before. -/
theorem getElem?_value_performAll (h : c.isOpen = true) {turns : List (Turn ε)} {i : Nat}
    (hi : turns[i]? = some turn) :
    (c.performAll turns).value[i]? = some (
      if (turns.take i).any fun earlier => earlier.use = .close then refusal turn.use
      else (c.replyIn turn).value) := by
  -- along the row the client stays the same until it is closed, and so the induction goes on
  induction turns generalizing i with
  | nil => cases hi
  | cons first turns ih =>
    rw [performAll_cons, step_of_open h]
    cases i with
    | zero =>
      cases hi
      rfl
    | succ i =>
      rw [List.getElem?_cons_succ] at hi
      by_cases hclose : first.use = .close
      · have hclosed : c.close.isOpen = false := rfl
        simp [hclose, performAll_of_closed hclosed, hi]
      · simpa [hclose] using ih hi

theorem length_value_performAll (h : c.isOpen = true) (turns : List (Turn ε)) :
    (c.performAll turns).value.length = turns.length := by
  have hparts := congrArg List.length
    (List.takeWhile_append_dropWhile (p := fun turn : Turn ε => turn.use ≠ .close) (l := turns))
  rw [List.length_append] at hparts
  rw [performAll_of_open h, Logged.value_bind, Logged.value_mapM, Logged.value_pure,
    List.length_append, List.length_map, List.length_map, hparts]

theorem log_performAll (h : c.isOpen = true) (turns : List (Turn ε)) :
    (c.performAll turns).log =
      (turns.takeWhile fun turn => turn.use ≠ .close).flatMap fun turn => (c.replyIn turn).log := by
  rw [performAll_of_open h, Logged.log_bind, Logged.log_mapM, Logged.log_pure, List.append_nil,
    List.flatMap_def]

/-- **A client is closed for good.**  However often and in whatever order an open client is asked for life
or information and closed, and whatever its nodes do each time: closing always succeeds; a request behind
the first closing is refused; and a request before it is answered from what the nodes do at that time, as
if it were the only one.  No node is contacted but by the uses before the first closing, in their order. -/
theorem performAll_closes_for_good (h : c.isOpen = true) (turns : List (Turn ε)) :
    let run := c.performAll turns
    run.value.length = turns.length ∧
    (∀ i turn, turns[i]? = some turn →
      (turn.use = .close → run.value[i]? = some (.released (.ok ()))) ∧
      ((∃ earlier ∈ turns.take i, earlier.use = .close) →
        (turn.use = .ping → run.value[i]? = some (.alive (.error (.other "Client is closed")))) ∧
        (turn.use = .info → run.value[i]? = some (.told (.error (.other "Client is closed"))))) ∧
      ((∀ earlier ∈ turns.take i, earlier.use ≠ .close) →
        run.value[i]? = some (c.replyIn turn).value)) ∧
    run.log =
      (turns.takeWhile fun turn => turn.use ≠ .close).flatMap fun turn => (c.replyIn turn).log := by
  intro run
  refine ⟨length_value_performAll h turns, fun i turn hi => ?_, log_performAll h turns⟩
  have hanswer := getElem?_value_performAll h hi
  refine ⟨fun hclose => ?_, fun hearlier => ?_, fun hopen => ?_⟩
  · have hreply : (c.replyIn turn).value = .released (.ok ()) := by rw [replyIn, hclose]; rfl
    have hrefusal : refusal turn.use = .released (.ok ()) := by rw [hclose]; rfl
    rw [hanswer, hreply, hrefusal, ite_self]
  · have hany : ((turns.take i).any fun earlier => earlier.use = .close) = true := by
      simpa using hearlier
    rw [if_pos hany] at hanswer
    constructor
    · intro hping
      rw [hanswer, hping]
      rfl
    · intro hinfo
      rw [hanswer, hinfo]
      rfl
  · have hnone : ¬((turns.take i).any fun earlier => earlier.use = .close) = true := by
      simpa using hopen
    rw [hanswer, if_neg hnone]

/-- The contacts of a turn in which the first node refuses and the others answer with a code; each logs
the turn and the place. -/
def answering (turn code : Nat) : Contact (Nat × Nat) := fun place _ =>
  ⟨if place = 0 then .error (.transport "refused") else .ok ⟨code, ""⟩, [(turn, place)]⟩

/-- A row of uses with two closings. -/
def closedTwice : List (Turn (Nat × Nat)) :=
  [⟨.ping, fun _ => answering 0 200⟩, ⟨.ping, fun _ => answering 1 404⟩, ⟨.close, fun _ => answering 2 200⟩,
    ⟨.ping, fun _ => answering 3 200⟩, ⟨.close, fun _ => answering 4 200⟩, ⟨.info, fun _ => answering 5 200⟩]

theorem performAll_closes_for_good_closedTwice :
    rowOfFour.isOpen = true ∧
    (rowOfFour.performAll closedTwice).value[1]? = some (.alive (.ok false)) ∧
    (rowOfFour.performAll closedTwice).value[3]? =
      some (.alive (.error (.other "Client is closed"))) ∧
    (rowOfFour.performAll closedTwice).value[4]? = some (.released (.ok ())) ∧
    (rowOfFour.performAll closedTwice).value[5]? =
      some (.told (.error (.other "Client is closed"))) ∧
    (rowOfFour.performAll closedTwice).log = [(0, 0), (0, 1), (1, 0), (1, 1)] := by
  have hrun := performAll_closes_for_good (c := rowOfFour) rfl closedTwice
  obtain ⟨-, huse, hlog⟩ := hrun
  have hbefore : ∀ earlier ∈ closedTwice.take 1, earlier.use ≠ .close := by decide +kernel
  have hbehind : ∀ i, 3 ≤ i → ∃ earlier ∈ closedTwice.take i, earlier.use = .close := by
    intro i hi
    refine ⟨⟨.close, fun _ => answering 2 200⟩, ?_, rfl⟩
    exact (List.take_subset_take_left closedTwice hi) (.tail _ (.tail _ (.head _)))
  refine ⟨rfl, (huse 1 _ rfl).2.2 hbefore, ((huse 3 _ rfl).2.1 (hbehind 3 (by decide))).1 rfl,
    (huse 4 _ rfl).1 rfl, ((huse 5 _ rfl).2.1 (hbehind 5 (by decide))).2 rfl, hlog.trans ?_⟩
  rfl

end HttpClient

end SinkCheck
