import NodeHistory.Proofs.Node.Walk

/-!
Clients of an interleaving. A client asks what is left and which nodes come next, dequeues from
any node and opens walks, which it resumes in any order and may leave at any step. Every answer
tells what is left, or it is itself what goes from there to the client. So whatever a client does,
the events handed out for a node, followed by those left, are the node's timeline as the registry
had it, and every walk comes to its end if it is resumed often enough.
-/

namespace NodeHistory.Interleaving

inductive Request where
  | nextNodes
  | more
  | remaining (node : String)
  | dequeue (node : String)
  | take (limit : Nat)
  | openWalk
  | resume (index : Nat)

inductive Answer where
  | nodes (names : List String)
  | more (still : Bool)
  | remaining (count : Nat)
  | event (e? : Option Event)
  | pairs (handed : List (String × Event))
  | opened (index : Nat)
  | resumed (handed? : Option (String × Event))

/-- What a client has been handed so far, with the walks it has opened. -/
structure Session where
  left : Interleaving
  walks : List Walk
  handed : List (String × Event)

namespace Session

/-- A request to resume takes a single step of the walk, which may hand out nothing: an event that
a client waits for is the result of several such requests. -/
def answer (s : Session) : Request → Answer
  | .nextNodes => .nodes s.left.nextNodes
  | .more => .more s.left.more
  | .remaining node => .remaining (s.left.remaining node)
  | .dequeue node => .event (s.left.dequeue node).1
  | .take limit => .pairs (s.left.take limit).1
  | .openWalk => .opened s.walks.length
  | .resume index => .resumed (s.walks[index]?.bind fun walk => (walk.step s.left).1)

/-- What a request leaves behind. -/
def apply (s : Session) : Request → Session
  | .nextNodes | .more | .remaining _ => s
  | .dequeue node =>
    { s with
      left := (s.left.dequeue node).2
      handed := s.handed ++ ((s.left.dequeue node).1.map (node, ·)).toList }
  | .take limit =>
    { s with left := (s.left.take limit).2, handed := s.handed ++ (s.left.take limit).1 }
  | .openWalk => { s with walks := s.walks ++ [.asking] }
  | .resume index =>
    match s.walks[index]? with
    | none => s
    | some walk =>
      { left := (walk.step s.left).2.2
        walks := s.walks.set index (walk.step s.left).2.1
        handed := s.handed ++ (walk.step s.left).1.toList }

def ofRegistry (r : Registry) : Session := ⟨.ofRegistry r, [], []⟩

def run (s : Session) (requests : List Request) : Session := requests.foldl apply s

variable {s : Session} {index : Nat}

theorem apply_resume_of_none (hwalk : s.walks[index]? = none) : s.apply (.resume index) = s := by
  simp only [apply, hwalk]

theorem apply_resume_of_some {walk : Walk} (hwalk : s.walks[index]? = some walk) :
    s.apply (.resume index) = ⟨(walk.step s.left).2.2, s.walks.set index (walk.step s.left).2.1,
      s.handed ++ (walk.step s.left).1.toList⟩ := by
  simp only [apply, hwalk]

end Session

theorem Yields.single (walk : Walk) (i : Interleaving) :
    Yields walk i (walk.step i).1.toList (walk.step i).2.1 (walk.step i).2.2 := by
  have hstep := Yields.step (Yields.stay (walk.step i).2.1 (walk.step i).2.2)
  rwa [List.append_nil] at hstep

/-- To every request a walk corresponds that hands out the same. -/
theorem exists_yields_apply (s : Session) (request : Request) :
    ∃ walk rest pairs, Yields walk s.left pairs rest (s.apply request).left ∧
      (s.apply request).handed = s.handed ++ pairs := by
  have hnothing : ∃ walk rest pairs, Yields walk s.left pairs rest s.left ∧
      s.handed = s.handed ++ pairs :=
    ⟨.asking, .asking, [], .stay .asking s.left, (List.append_nil _).symm⟩
  cases request with
  | nextNodes => exact hnothing
  | more => exact hnothing
  | remaining node => exact hnothing
  | dequeue node => exact ⟨.serving [node], .serving [], _, .single (.serving [node]) s.left, rfl⟩
  | take limit =>
      obtain ⟨rest, hyields, -⟩ := s.left.take_yields limit
      exact ⟨.asking, rest, _, hyields, rfl⟩
  | openWalk => exact hnothing
  | resume index =>
      cases hwalk : s.walks[index]? with
      | none =>
          rw [Session.apply_resume_of_none hwalk]
          exact hnothing
      | some walk =>
          rw [Session.apply_resume_of_some hwalk]
          exact ⟨walk, _, _, .single walk s.left, rfl⟩

/-! ### Answers -/

/-- The given pairs, and nothing else, go from what is left to what has been handed out. -/
structure Hands (s after : Session) (pairs : List (String × Event)) : Prop where
  handed : after.handed = s.handed ++ pairs
  taken (node : String) : handedTo node pairs ++ after.left.queue node = s.left.queue node

/-- The answer to a request tells what is left, or it is all that is handed out. -/
inductive Answered (s after : Session) : Request → Answer → Prop
  | nextNodes {names : List String} (filled : ∀ node ∈ names, s.left.queue node ≠ [])
      (exhausted : names = [] → ∀ node, s.left.queue node = []) (same : after = s) :
      Answered s after .nextNodes (.nodes names)
  | more {still : Bool} (tells : still = true ↔ ∃ node, s.left.queue node ≠ [])
      (same : after = s) : Answered s after .more (.more still)
  | remaining {node : String} (same : after = s) :
      Answered s after (.remaining node) (.remaining (s.left.queue node).length)
  | dequeue {node : String} (walks : after.walks = s.walks)
      (hands : Hands s after ((s.left.queue node).head?.map (node, ·)).toList) :
      Answered s after (.dequeue node) (.event (s.left.queue node).head?)
  | take {limit : Nat} {pairs : List (String × Event)} (walks : after.walks = s.walks)
      (full : pairs.length = min limit s.left.size) (hands : Hands s after pairs) :
      Answered s after (.take limit) (.pairs pairs)
  | openWalk (opened : after = { s with walks := s.walks ++ [.asking] }) :
      Answered s after .openWalk (.opened s.walks.length)
  | resume {index : Nat} {pair? : Option (String × Event)}
      (walks : ∀ other ≠ index, after.walks[other]? = s.walks[other]?)
      (hands : Hands s after pair?.toList) : Answered s after (.resume index) (.resumed pair?)

theorem Yields.hands {s after : Session} {walk rest : Walk} {pairs : List (String × Event)}
    (h : Yields walk s.left pairs rest after.left) (hhanded : after.handed = s.handed ++ pairs) :
    Hands s after pairs :=
  ⟨hhanded, h.handedTo_append_queue⟩

theorem Session.answered (s : Session) (request : Request) :
    Answered s (s.apply request) request (s.answer request) := by
  cases request with
  | nextNodes =>
      refine .nextNodes (fun node hnode => (mem_nextNodes.mp hnode).1) (fun hnone node => ?_) rfl
      have hempty : s.left.more = false := by
        rw [← Bool.not_eq_true, ← nextNodes_ne_nil_iff]
        exact not_not.mpr hnone
      exact queue_eq_nil_of_not_more hempty node
  | more => exact .more more_iff rfl
  | remaining node => exact .remaining rfl
  | dequeue node => exact .dequeue rfl (Yields.hands (.single (.serving [node]) s.left) rfl)
  | take limit =>
      obtain ⟨rest, hyields, -⟩ := s.left.take_yields limit
      exact .take rfl (s.left.length_take limit) (hyields.hands rfl)
  | openWalk => exact .openWalk rfl
  | resume index =>
      cases hwalk : s.walks[index]? with
      | none =>
          rw [Session.answer, hwalk, Session.apply_resume_of_none hwalk]
          exact .resume (fun _ _ => rfl) ⟨(List.append_nil _).symm, fun _ => rfl⟩
      | some walk =>
          rw [Session.answer, hwalk, Session.apply_resume_of_some hwalk]
          refine .resume (fun other hother => ?_) (Yields.hands (.single walk s.left) rfl)
          exact List.getElem?_set_ne hother.symm

/-- A walk that is resumed again and again takes the steps that it takes on its own. -/
theorem Session.exists_run_resume {s : Session} {index : Nat} {walk rest : Walk}
    {left : Interleaving} {pairs : List (String × Event)} (hwalk : s.walks[index]? = some walk)
    (h : Yields walk s.left pairs rest left) :
    ∃ count, s.run (List.replicate count (.resume index)) =
      ⟨left, s.walks.set index rest, s.handed ++ pairs⟩ := by
  generalize hleft : s.left = i at h
  induction h generalizing s with
  | stay walk i =>
      subst hleft
      obtain ⟨hindex, rfl⟩ := List.getElem?_eq_some_iff.mp hwalk
      refine ⟨0, ?_⟩
      rw [List.append_nil, List.set_getElem_self]
      rfl
  | @step walk rest i left pairs later ih =>
      subst hleft
      obtain ⟨hindex, -⟩ := List.getElem?_eq_some_iff.mp hwalk
      have hresumed := Session.apply_resume_of_some hwalk
      have hnext : (s.apply (.resume index)).walks[index]? = some (walk.step s.left).2.1 := by
        rw [hresumed]
        exact List.getElem?_set_self hindex
      have hafter : (s.apply (.resume index)).left = (walk.step s.left).2.2 := by rw [hresumed]
      obtain ⟨count, hrun⟩ := ih hnext hafter
      refine ⟨count + 1, hrun.trans ?_⟩
      rw [hresumed, List.set_set, List.append_assoc]

/-! ### Sessions -/

theorem Yields.not_more_left {walk rest : Walk} {i left : Interleaving}
    {pairs : List (String × Event)} (h : Yields walk i pairs rest left) (hempty : i.more = false) :
    left.more = false := by
  rw [← size_eq_zero_iff] at hempty ⊢
  have hsize := h.length_add_size
  omega

/-- What holds of a session at every point. -/
structure Session.Sound (stored : String → List Event) (s : Session) : Prop where
  accounted (node : String) : handedTo node s.handed ++ s.left.queue node = stored node
  ended : .finished ∈ s.walks → s.left.more = false

variable {stored : String → List Event} {s : Session}

theorem Session.Sound.apply (hsound : s.Sound stored) (request : Request) :
    (s.apply request).Sound stored := by
  obtain ⟨walk, rest, pairs, hyields, hhanded⟩ := exists_yields_apply s request
  have hkept : .finished ∈ s.walks → (s.apply request).left.more = false := fun hfinished =>
    hyields.not_more_left (hsound.ended hfinished)
  refine ⟨?_, ?_⟩
  · intro node
    rw [hhanded, handedTo_append, List.append_assoc, hyields.handedTo_append_queue]
    exact hsound.accounted node
  · intro hfinished
    cases request with
    | nextNodes => exact hkept hfinished
    | more => exact hkept hfinished
    | remaining node => exact hkept hfinished
    | dequeue node => exact hkept hfinished
    | take limit => exact hkept hfinished
    | openWalk =>
        apply hkept
        simpa [Session.apply] using hfinished
    | resume index =>
        cases hwalk : s.walks[index]? with
        | none =>
            apply hkept
            rwa [Session.apply_resume_of_none hwalk] at hfinished
        | some resumed =>
            rw [Session.apply_resume_of_some hwalk] at hfinished ⊢
            rcases List.mem_or_eq_of_mem_set hfinished with hold | hnew
            · exact (Yields.single resumed s.left).not_more_left (hsound.ended hold)
            · have hsingle := Yields.single resumed s.left
              rw [← hnew] at hsingle
              apply hsingle.not_more
              rintro rfl
              exact hsound.ended (List.mem_of_getElem? hwalk)

theorem Session.Sound.run (hsound : s.Sound stored) (requests : List Request) :
    (s.run requests).Sound stored := by
  induction requests generalizing s with
  | nil => exact hsound
  | cons request requests ih => exact ih (hsound.apply request)

theorem Session.sound_ofRegistry (r : Registry) :
    (Session.ofRegistry r).Sound fun node => ((r.get? node).map (·.events)).getD [] :=
  ⟨queue_ofRegistry r, fun h => nomatch h⟩

/-- The walk goes on to its end, hands out every event that is left exactly once, a node's events
in their order, and leaves nothing. -/
def Completes (walk : Walk) (i : Interleaving) (pairs : List (String × Event))
    (left : Interleaving) : Prop :=
  Yields walk i pairs .finished left ∧
    ∀ node, left.queue node = [] ∧ handedTo node pairs = i.queue node

theorem Yields.completes {walk : Walk} {i left : Interleaving} {pairs : List (String × Event)}
    (h : Yields walk i pairs .finished left) (hdone : walk = .finished → i.more = false) :
    Completes walk i pairs left := by
  refine ⟨h, ?_⟩
  intro node
  have hnothing := queue_eq_nil_of_not_more (h.not_more hdone) node
  have haccounted := h.handedTo_append_queue node
  rw [hnothing, List.append_nil] at haccounted
  exact ⟨hnothing, haccounted⟩

/-- Whatever a client does, nothing is lost, repeated or put out of a node's order: at every point
what was handed out for a node and what is left of it make up its stored timeline, the answers to
the client's requests agree with what is left and what is handed out, and walks can be finished. -/
theorem session_accounts (r : Registry) (requests : List Request) :
    let s := (Session.ofRegistry r).run requests
    (∀ node, handedTo node s.handed ++ s.left.queue node =
        ((r.get? node).map (·.events)).getD []) ∧
      (∀ request, Answered s (s.apply request) request (s.answer request)) ∧
      (∀ node, (s.left.dequeue node).1 = none ↔ s.left.remaining node = 0) ∧
      (s.left.more = true ↔ s.left.nextNodes ≠ []) ∧
      (s.left.more = true ↔ ∃ node, 0 < s.left.remaining node) ∧
      Completes .asking s.left s.left.drain.1 s.left.drain.2 ∧
      ∀ index walk, s.walks[index]? = some walk → ∃ count pairs,
        let ended := s.run (List.replicate count (.resume index))
        Completes walk s.left pairs ended.left ∧ ended.handed = s.handed ++ pairs := by
  intro s
  have hsound := (Session.sound_ofRegistry r).run requests
  refine ⟨hsound.accounted, s.answered, fun node => dequeue_eq_none_iff, nextNodes_ne_nil_iff.symm,
    ?_, s.left.drain_yields.completes nofun, ?_⟩
  · simp only [more_iff, remaining_pos_iff]
  · intro index walk hwalk
    obtain ⟨pairs, left, hyields⟩ := exists_yields_finished walk s.left
    obtain ⟨count, hrun⟩ := Session.exists_run_resume hwalk hyields
    have hcompletes : Completes walk s.left pairs left := by
      apply hyields.completes
      rintro rfl
      exact hsound.ended (List.mem_of_getElem? hwalk)
    refine ⟨count, pairs, ?_⟩
    rw [hrun]
    exact ⟨hcompletes, rfl⟩

/-- Two nodes whose clocks tie, so that a walk names both of them at once. -/
def tiedPair : Registry where
  nodes := [("A", { events := [.bare "/logs/A/e.log" 3, .bare "/logs/A/e.log" 5] }),
    ("B", { events := [.bare "/logs/B/e.log" 3] })]
  distinct := by decide

/-- A client dequeues from the first node while a walk is on its way there, so that the walk hands
out the node's next event. The second node keeps its turn. -/
theorem overtaken_walk_accounted :
    let s := (Session.ofRegistry tiedPair).run
      [.openWalk, .resume 0, .dequeue "A", .dequeue "C", .resume 0]
    s.handed = [("A", .bare "/logs/A/e.log" 3), ("A", .bare "/logs/A/e.log" 5)] ∧
      handedTo "B" s.handed ++ s.left.queue "B" = [.bare "/logs/B/e.log" 3] ∧
      Answered s (s.apply (.take 2)) (.take 2) (.pairs [("B", .bare "/logs/B/e.log" 3)]) ∧
      ∃ count, handedTo "B" (s.run (List.replicate count (.resume 0))).handed =
        [.bare "/logs/B/e.log" 3] := by
  intro s
  obtain ⟨haccounted, hanswered, -, -, -, -, hwalks⟩ := session_accounts tiedPair
    [.openWalk, .resume 0, .dequeue "A", .dequeue "C", .resume 0]
  have hwalk : s.walks[0]? = some (.serving ["B"]) := by decide +kernel
  have hqueue : handedTo "B" s.handed ++ s.left.queue "B" = [.bare "/logs/B/e.log" 3] :=
    haccounted "B"
  have htaken : s.answer (.take 2) = .pairs [("B", .bare "/logs/B/e.log" 3)] :=
    congrArg Answer.pairs (by decide +kernel)
  obtain ⟨count, pairs, ⟨-, hdrained⟩, hhanded⟩ := hwalks 0 _ hwalk
  refine ⟨by decide +kernel, hqueue, htaken ▸ hanswered (.take 2), count, ?_⟩
  rw [hhanded, handedTo_append, (hdrained "B").2]
  exact hqueue

end NodeHistory.Interleaving
