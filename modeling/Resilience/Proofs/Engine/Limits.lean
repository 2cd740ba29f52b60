import Mathlib.Algebra.GroupWithZero.Nat
import Mathlib.Data.List.Chain
import Resilience.Proofs.Engine.Onward

/-!
Limits: whoever has a place in a bulkhead entered it under the policy of that very bulkhead. So each
bulkhead limits those who were admitted under its policy, and nobody else: one that takes the place
of another because the policy changed does not count those who are still in the other one.
-/

namespace Resilience

open Move

namespace Engine

variable {α : Type} {engine before middle after : Engine α} {id : TaskId}
  {enters : TaskId → BulkheadPolicy → Prop}

def policies (engine : Engine α) (operation : OperationId) : List BulkheadPolicy :=
  (engine.hall operation).map Bulkhead.policy

def lodging (engine : Engine α) (id : TaskId) : Option (OperationId × Nat) :=
  (engine.holding? id).bind fun holding =>
    holding.place.map fun place => (holding.operation, place.bulkhead)

theorem lodging_eq_some {operation : OperationId} {index : Nat} :
    engine.lodging id = some (operation, index) ↔ ∃ holding place,
      engine.holding? id = some holding ∧ holding.operation = operation ∧
        holding.place = some place ∧ place.bulkhead = index := by
  unfold lodging
  simp only [Option.bind_eq_some_iff, Option.map_eq_some_iff, Prod.mk.injEq]
  constructor
  · rintro ⟨holding, found, place, held, same, here⟩
    exact ⟨holding, place, found, same, held, here⟩
  · rintro ⟨holding, place, found, same, held, here⟩
    exact ⟨holding, found, place, held, same, here⟩

theorem lodging_of_holding {holding : Holding α} (found : engine.holding? id = some holding) :
    engine.lodging id =
      holding.place.map fun place => (holding.operation, place.bulkhead) := by
  unfold lodging
  rw [found]
  rfl

theorem getElem?_of_prefix {β : Type} {first second : List β} (begins : first <+: second)
    {index : Nat} {value : β} (found : first[index]? = some value) :
    second[index]? = some value := by
  obtain ⟨rest, rfl⟩ := begins
  rw [List.getElem?_append_left (List.getElem?_eq_some_iff.mp found).1]
  exact found

theorem map_policy_modify {bulkheads : List Bulkhead} {index : Nat}
    {change : Bulkhead → Bulkhead} (kept : ∀ bulkhead, bulkheads[index]? = some bulkhead →
      (change bulkhead).policy = bulkhead.policy) :
    (bulkheads.modify index change).map Bulkhead.policy = bulkheads.map Bulkhead.policy := by
  apply List.ext_getElem?
  intro other
  rw [List.getElem?_map, List.getElem?_modify, List.getElem?_map]
  cases found : bulkheads[other]? with
  | none => rfl
  | some bulkhead =>
    by_cases same : index = other
    · subst same
      simp [kept bulkhead found]
    · simp [same]

/-- Whether bulkheads keep their policies, with another policy for each new one, and whoever has a
place in one had it before or enters under its policy. -/
structure Lodges (enters : TaskId → BulkheadPolicy → Prop) (before after : Engine α) : Prop where
  begins : ∀ operation, before.policies operation <+: after.policies operation
  changes : ∀ operation, (before.policies operation).IsChain (· ≠ ·) →
    (after.policies operation).IsChain (· ≠ ·)
  lodgers : ∀ id operation index, after.lodging id = some (operation, index) →
    before.lodging id = some (operation, index) ∨
      ∃ policy, (after.policies operation)[index]? = some policy ∧ enters id policy

namespace Lodges

theorem of_eq (policies : ∀ operation, after.policies operation = before.policies operation)
    (lodging : ∀ id, after.lodging id = before.lodging id) : Lodges enters before after where
  begins operation := policies operation ▸ List.prefix_refl _
  changes operation chain := by
    rw [policies]
    exact chain
  lodgers id operation index taken := .inl (lodging id ▸ taken)

theorem refl (engine : Engine α) : Lodges enters engine engine :=
  of_eq (fun _ => rfl) fun _ => rfl

theorem trans (first : Lodges enters before middle) (second : Lodges enters middle after) :
    Lodges enters before after where
  begins operation := (first.begins operation).trans (second.begins operation)
  changes operation chain := second.changes operation (first.changes operation chain)
  lodgers id operation index taken := by
    rcases second.lodgers id operation index taken with earlier | entered
    · rcases first.lodgers id operation index earlier with earliest | ⟨policy, found, asked⟩
      · exact .inl earliest
      · exact .inr ⟨policy, getElem?_of_prefix (second.begins operation) found, asked⟩
    · exact .inr entered

theorem of_retains (retains : before.Retains after) : Lodges enters before after := by
  refine of_eq (fun operation => ?_) fun id => ?_
  · unfold policies
    rw [retains.hall]
  · unfold lodging
    rw [retains.tasks]

theorem setCircuit (engine : Engine α) (operation : OperationId) (breaker : Breaker) :
    Lodges enters engine (engine.setCircuit operation breaker) := by
  refine of_eq (fun other => ?_) fun _ => rfl
  unfold policies
  rw [hall_setCircuit]

theorem setPermit (engine : Engine α) (id : TaskId) (permit : Option Permit) :
    Lodges enters engine (engine.setPermit id permit) := by
  refine of_eq (fun _ => rfl) fun other => ?_
  unfold lodging
  rw [holding?_setPermit]
  split
  · cases engine.holding? other <;> rfl
  · rfl

theorem setProgress (engine : Engine α) (id : TaskId) (progress : Progress α) :
    Lodges enters engine (engine.setProgress id progress) := by
  refine of_eq (fun _ => rfl) fun other => ?_
  unfold lodging
  rw [holding?_setProgress]
  split
  · cases engine.holding? other <;> rfl
  · rfl

theorem setHall {operation : OperationId} {bulkheads : List Bulkhead}
    (begins : engine.policies operation <+: bulkheads.map Bulkhead.policy)
    (changes : (engine.policies operation).IsChain (· ≠ ·) →
      (bulkheads.map Bulkhead.policy).IsChain (· ≠ ·)) :
    Lodges enters engine (engine.setHall operation bulkheads) where
  begins other := by
    unfold policies
    rw [hall_setHall]
    split
    next same => exact same ▸ begins
    next => exact List.prefix_refl _
  changes other chain := by
    unfold policies at chain ⊢
    rw [hall_setHall]
    split
    next same => exact changes (same ▸ chain)
    next => exact chain
  lodgers _ _ _ taken := .inl taken

theorem setPlace {place : Option Place}
    (taken : ∀ holding next, engine.holding? id = some holding → place = some next →
      engine.lodging id = some (holding.operation, next.bulkhead) ∨
        ∃ policy, (engine.policies holding.operation)[next.bulkhead]? = some policy ∧
          enters id policy) :
    Lodges enters engine (engine.setPlace id place) where
  begins _ := List.prefix_refl _
  changes _ chain := chain
  lodgers other operation index lodged := by
    obtain ⟨holding, next, found, same, held, here⟩ := lodging_eq_some.mp lodged
    rw [holding?_setPlace] at found
    split at found
    next mine =>
      obtain ⟨earlier, present, changed⟩ := Option.map_eq_some_iff.mp found
      subst mine same here changed
      exact taken earlier next present held
    next =>
      subst same here
      exact .inl (lodging_eq_some.mpr ⟨holding, next, found, rfl, held, rfl⟩)

theorem vacate (engine : Engine α) (id : TaskId) :
    Lodges enters engine (engine.setPlace id none) := by
  refine setPlace fun _ _ _ given => ?_
  cases given

theorem modify {operation : OperationId} {index : Nat} {change : Bulkhead → Bulkhead}
    (kept : ∀ bulkhead, (engine.hall operation)[index]? = some bulkhead →
      (change bulkhead).policy = bulkhead.policy) :
    Lodges enters engine
      (engine.setHall operation ((engine.hall operation).modify index change)) := by
  have same : ((engine.hall operation).modify index change).map Bulkhead.policy =
      engine.policies operation := map_policy_modify kept
  refine setHall ?_ fun chain => ?_
  · exact same ▸ List.prefix_refl _
  · exact same ▸ chain

theorem leavePlace (engine : Engine α) (id : TaskId) (task : Task α) :
    Lodges enters engine (engine.leavePlace id task) := by
  cases held : task.place with
  | none => exact leavePlace_of_free held ▸ .refl engine
  | some place =>
    have kept : ∀ bulkhead, (place.giveBack bulkhead).policy = bulkhead.policy := by
      cases place <;> exact fun _ => rfl
    exact ((modify fun bulkhead _ => kept bulkhead).trans (vacate _ id)).trans
      (.of_retains (retains_leavePlace held))

theorem dropPermit (engine : Engine α) (id : TaskId) (task : Task α) :
    Lodges enters engine (engine.dropPermit id task) := by
  cases held : task.permit with
  | none => exact dropPermit_of_free held ▸ .refl engine
  | some permit =>
    rw [dropPermit_of_held held]
    exact (setCircuit engine _ _).trans (setPermit _ id none)

theorem release (engine : Engine α) (id : TaskId) (task : Task α) :
    Lodges enters engine (engine.release id task) := by
  have gate : engine.Retains (engine.changeGate (·.leave id)) :=
    ((Touches.refl engine).changeGate _).retains
  exact ((of_retains gate).trans (dropPermit _ id task)).trans (leavePlace _ id task)

theorem finish (engine : Engine α) (id : TaskId) (result : Option α) :
    Lodges enters engine (engine.finish id result) := by
  cases found : engine.tasks.get? id with
  | none =>
    unfold Engine.finish
    rw [found]
    exact .refl engine
  | some task =>
    exact ((release engine id task).trans (setProgress _ id (ending result))).trans
      (.of_retains (retains_finish found result))

theorem forget (engine : Engine α) (id : TaskId) : Lodges enters engine (engine.forget id) where
  begins _ := List.prefix_refl _
  changes _ chain := chain
  lodgers other operation index lodged := by
    obtain ⟨holding, place, found, rest⟩ := lodging_eq_some.mp lodged
    rw [holding?_forget] at found
    split at found
    · cases found
    · exact .inl (lodging_eq_some.mpr ⟨holding, place, found, rest⟩)

theorem abort (engine : Engine α) (id : TaskId) : Lodges enters engine (engine.abort id) := by
  unfold Engine.abort
  split
  · split
    · exact (release engine id _).trans (forget _ id)
    · exact forget engine id
  · exact .refl engine

theorem reset (engine : Engine α) (operation : OperationId) :
    Lodges enters engine (engine.reset operation).2 := by
  rcases reset_cases engine operation with same | retains
  · rw [same]
    exact .refl engine
  · exact (setCircuit engine operation _).trans (of_retains retains)

theorem enterBulkhead (engine : Engine α) (id : TaskId) (task : Task α) (policy : BulkheadPolicy)
    (here : engine.holding? id = some task.holding) (asks : enters id policy) :
    Lodges enters engine (engine.enterBulkhead id task policy).2 := by
  obtain ⟨bulkheads, index, bulkhead, hall, current, asked, -, retains⟩ :=
    retains_enterBulkhead engine id task policy
  have same : (bulkheads.modify index fun _ => bulkhead.enter.2).map Bulkhead.policy =
      bulkheads.map Bulkhead.policy := by
    refine map_policy_modify fun other found => ?_
    cases current.symm.trans found
    exact bulkhead.policy_enter
  have built : Lodges enters engine
      (engine.setHall task.operation (bulkheads.modify index fun _ => bulkhead.enter.2)) := by
    refine setHall ?_ fun chain => ?_ <;> rw [same]
    · obtain rfl | ⟨rfl, -⟩ := hall
      · exact List.prefix_refl _
      · rw [List.map_append]
        exact List.prefix_append _ _
    · obtain rfl | ⟨rfl, changed⟩ := hall
      · exact chain
      · rw [List.map_append]
        refine chain.append (.singleton _) fun last latest next new => ?_
        obtain ⟨former, ends, rfl⟩ := Option.map_eq_some_iff.mp
          (List.getLast?_map.symm.trans latest)
        cases new
        exact changed former ends
  refine (built.trans (setPlace fun holding next found given => .inr ⟨policy, ?_, asks⟩)).trans
    (.of_retains retains)
  cases here.symm.trans found
  unfold policies
  have there : task.operation = task.holding.operation := rfl
  rw [Admission.bulkhead_of_place given, hall_setHall, if_pos there, same, List.getElem?_map,
    current]
  exact congrArg some asked

/-- A ticket that becomes a slot is one of the same bulkhead. -/
theorem awaitSlot (engine : Engine α) (id : TaskId) (task : Task α)
    (here : engine.holding? id = some task.holding) :
    Lodges enters engine (engine.awaitSlot id task).2 := by
  have awaits := awaiting engine id task
  generalize engine.awaitSlot id task = result at awaits
  have polled (index ticket : Nat) : Lodges enters engine (engine.setHall task.operation
      ((engine.hall task.operation).modify index fun bulkhead =>
        (bulkhead.poll ticket task.cancelled).2)) :=
    modify fun bulkhead _ => bulkhead.policy_poll ticket task.cancelled
  cases awaits with
  | remains retains => exact .of_retains retains
  | absent => exact .refl engine
  | @granted index ticket bulkhead after held found turn retains =>
    refine ((polled index ticket).trans (setPlace fun holding next found given => .inl ?_)).trans
      (.of_retains retains)
    cases here.symm.trans found
    cases given
    rw [lodging_of_holding found]
    show task.place.map _ = _
    rw [held]
    rfl
  | @cancelled index ticket bulkhead after held found turn retains =>
    exact ((polled index ticket).trans (vacate _ id)).trans (.of_retains retains)

theorem acquirePermit (engine : Engine α) (id : TaskId) (task : Task α) (rule : BreakerRule) :
    Lodges enters engine (engine.acquirePermit id task rule).2 := by
  have retains := retains_acquirePermit engine id task rule
  generalize (engine.circuit task.operation).acquire rule engine.clock = acquired at retains
  rcases acquired with ⟨retryAfter | permit, breaker⟩
  · exact (setCircuit engine _ breaker).trans (of_retains retains)
  · exact ((setCircuit engine _ breaker).trans (setPermit _ id _)).trans (of_retains retains)

theorem recordSample (engine : Engine α) (id : TaskId) (task : Task α) (rule : BreakerRule)
    (failed : Bool) : Lodges enters engine (engine.recordSample id task rule failed).2 := by
  cases held : task.permit with
  | none =>
    unfold Engine.recordSample
    rw [held]
    exact .refl engine
  | some permit =>
    obtain ⟨-, retains⟩ := retains_recordSample engine id held rule failed
    exact ((setCircuit engine _ _).trans (setPermit _ id none)).trans (of_retains retains)

theorem answer (engine : Engine α) (id : TaskId) (task : Task α) (request : Request) (wait : Wait)
    (here : engine.holding? id = some task.holding)
    (asks : ∀ policy, request = .enterBulkhead policy → enters id policy) :
    Lodges enters engine (engine.answer id task request wait).2 := by
  have kept (offBreaker : request.OffBreaker) (offBulkhead : request.OffBulkhead) :
      Lodges enters engine (engine.answer id task request wait).2 :=
    of_retains (answer_retains engine id task offBreaker offBulkhead wait)
  cases request with
  | enterBulkhead policy => exact enterBulkhead engine id task policy here (asks policy rfl)
  | awaitSlot => exact awaitSlot engine id task here
  | leaveBulkhead => exact leavePlace engine id task
  | acquirePermit rule => exact acquirePermit engine id task rule
  | recordSample rule failed => exact recordSample engine id task rule failed
  | dropPermit => exact dropPermit engine id task
  | _ => exact kept trivial trivial

theorem spawn (engine : Engine α) {task : Task α} (free : task.place = none) :
    Lodges enters engine (engine.spawn task).2 := by
  have woken := ((Touches.refl { engine with
    tasks := engine.tasks.set engine.nextTask task, nextTask := engine.nextTask + 1 }).wake
      engine.nextTask).retains
  have same (operation : OperationId) :
      (engine.spawn task).2.policies operation = engine.policies operation :=
    congrArg (List.map Bulkhead.policy) (woken.hall operation)
  refine ⟨fun operation => ?_, fun operation chain => ?_, fun id operation index lodged => ?_⟩
  · exact same operation ▸ List.prefix_refl _
  · exact same operation ▸ chain
  · obtain ⟨holding, place, found, here, held, there⟩ := lodging_eq_some.mp lodged
    rw [holding?_spawn] at found
    split at found
    · cases found
      cases free.symm.trans held
    · exact .inl (lodging_eq_some.mpr ⟨holding, place, found, here, held, there⟩)

end Lodges

end Engine

open Engine

theorem Change.lodges {α : Type} {enters : TaskId → BulkheadPolicy → Prop} (engine : Engine α)
    (change : Change α) (unspawned : (change.apply engine).nextTask = engine.nextTask) :
    Lodges enters engine (change.apply engine) := by
  rcases change.apply_cases engine with ⟨task, rfl⟩ | ⟨operation, rfl⟩ | retains
  · rw [Change.apply, engine.nextTask_spawn] at unspawned
    exact absurd unspawned (Nat.succ_ne_self _)
  · exact .reset engine operation
  · exact .of_retains retains

theorem Step.lodges {α : Type} {more : List (Move α)} {middle stage : Stage α}
    (step : Step middle more stage)
    (unspawned : stage.engine.nextTask = middle.engine.nextTask) :
    Lodges (fun id policy => ∃ entry, ⟨.enterBulkhead policy, entry⟩ ∈ history (own id more))
      middle.engine stage.engine := by
  cases step with
  | change engine change => exact change.lodges engine unspawned
  | abort engine id => exact .abort engine id
  | resume => exact .refl _
  | @answer engine after id task request next wait answer found answers =>
    obtain rfl : (engine.answer id task request wait).2 = after := congrArg Prod.snd answers
    refine .answer engine id task request wait (holding?_of_found found) fun policy asks => ?_
    subst asks
    refine ⟨answer, ?_⟩
    simp [own, history, Move.exchange?]
  | @wait engine after id task request next wait later found waits =>
    exact (Lodges.of_retains (retains_of_unanswered waits nofun)).trans (.setProgress after id _)
  | @crash engine after id task request next wait found crashes =>
    exact (Lodges.of_retains (retains_of_unanswered crashes nofun)).trans (.finish after id none)
  | @finish engine id result => exact .finish engine id (some result)
  | vanish => exact .refl _

/-- Whether bulkheads that follow one another have different policies, and whoever has a place in
one entered it under its policy. -/
structure Lodged (moves : List (Move Outcome)) (stage : Stage Outcome) : Prop where
  changes : ∀ operation, (stage.engine.policies operation).IsChain (· ≠ ·)
  entered : ∀ id operation index, stage.engine.lodging id = some (operation, index) →
    ∃ policy entry, (stage.engine.policies operation)[index]? = some policy ∧
      ⟨.enterBulkhead policy, entry⟩ ∈ history (own id moves)

theorem Lodged.goesOn {moves more : List (Move Outcome)} {middle stage : Stage Outcome}
    (lodged : Lodged moves middle)
    (lodges : Lodges (fun id policy => ∃ entry,
      ⟨.enterBulkhead policy, entry⟩ ∈ history (own id more)) middle.engine stage.engine) :
    Lodged (moves ++ more) stage := by
  refine ⟨fun operation => lodges.changes operation (lodged.changes operation),
    fun id operation index taken => ?_⟩
  rw [own_append, history_concat]
  rcases lodges.lodgers id operation index taken with earlier | ⟨policy, found, entry, asked⟩
  · obtain ⟨policy, entry, found, asked⟩ := lodged.entered id operation index earlier
    exact ⟨policy, entry, getElem?_of_prefix (lodges.begins operation) found,
      List.mem_append_left _ asked⟩
  · exact ⟨policy, entry, found, List.mem_append_right _ asked⟩

theorem Course.lodged {moves : List (Move Outcome)} {stage : Stage Outcome}
    (course : Course moves stage) : Lodged moves stage := by
  induction course with
  | start engine => exact ⟨fun _ => .nil, nofun⟩
  | @invoke moves _ _ operation input service linked cancelled inductionHypothesis =>
    rw [← List.append_nil moves]
    exact inductionHypothesis.goesOn (.spawn _ rfl)
  | step _ step unspawned inductionHypothesis =>
    exact inductionHypothesis.goesOn (step.lodges unspawned)

theorem Attending.leads {past : List Exchange} {id : TaskId} {active : Option (Active Outcome)}
    {holding : Holding Outcome} (attending : Attending past id active holding)
    (running : holding.isRunning = true) :
    ∃ (service : Service) (rest : Plan Outcome),
      (service.plan holding.operation).Leads past rest := by
  cases attending with
  | active _ underway =>
    obtain ⟨service, leads⟩ := underway.leads
    exact ⟨service, _, leads⟩
  | suspended _ _ underway =>
    obtain ⟨service, leads⟩ := underway.leads
    exact ⟨service, _, leads⟩
  | ended _ ended =>
    rw [running] at ended
    cases ended

namespace Engine

/-- Whether an invocation of an operation has a slot of the bulkhead at a position: one that it
holds, or one that was handed over to it while it waits. -/
def Holds (engine : Engine Outcome) (operation : OperationId) (index : Nat) (id : TaskId) :
    Prop :=
  engine.Occupies operation id (.slot index) ∨ ∃ bulkhead ticket,
    (engine.hall operation)[index]? = some bulkhead ∧ ticket ∈ bulkhead.granted ∧
      engine.Occupies operation id (.ticket index ticket)

variable {stage : Stage Outcome} {moves : List (Move Outcome)} {operation : OperationId}
  {index : Nat} {id : TaskId}

theorem Holds.occupies (holds : stage.engine.Holds operation index id) :
    ∃ place, place.bulkhead = index ∧ stage.engine.Occupies operation id place := by
  rcases holds with slot | ⟨_, ticket, -, -, handed⟩
  · exact ⟨.slot index, rfl, slot⟩
  · exact ⟨.ticket index ticket, rfl, handed⟩

theorem length_le_slots (attended : Attended moves stage) {policy : BulkheadPolicy}
    (found : (stage.engine.policies operation)[index]? = some policy) {ids : List TaskId}
    (distinct : ids.Nodup) (hold : ∀ id ∈ ids, stage.engine.Holds operation index id) :
    ids.length ≤ policy.slots := by
  obtain ⟨bulkhead, present, rfl⟩ :=
    Option.map_eq_some_iff.mp (List.getElem?_map.symm.trans found)
  obtain ⟨holders, waiters, seated⟩ :=
    (attended.custody.occupied operation).seated index bulkhead present
  obtain ⟨handed, -, length, mem_handed⟩ := seated.handed
  have within : ids ⊆ holders ++ handed := by
    intro id member
    refine List.mem_append.mpr ((hold id member).imp (fun slot => ?_) fun ticketed => ?_)
    · exact (seated.holds id).mpr ((occupies_iff attended operation id _).mpr slot)
    · obtain ⟨other, ticket, there, granted, ticketed⟩ := ticketed
      cases present.symm.trans there
      exact (mem_handed id).mpr
        ⟨ticket, granted, (occupies_iff attended operation id _).mpr ticketed⟩
  have most := (List.subperm_of_subset distinct within).length_le
  have taken : bulkhead.free + holders.length + bulkhead.granted.length + 0 =
      bulkhead.policy.slots := seated.conserved.slots
  rw [List.length_append] at most
  omega

/-- Whoever has a slot of a bulkhead looked the very policy of that bulkhead up. -/
theorem Holds.admitted (holds : stage.engine.Holds operation index id)
    (attended : Attended moves stage) (lodged : Lodged moves stage) :
    ∃ policy bulkhead, resolved? (history (own id moves)) = some policy ∧
      policy.bulkhead = some bulkhead ∧
        (stage.engine.policies operation)[index]? = some bulkhead := by
  obtain ⟨place, here, task, found, running, same, held⟩ := holds.occupies
  have holding := holding?_of_found found
  have taken : stage.engine.lodging id = some (operation, index) :=
    lodging_eq_some.mpr ⟨task.holding, place, holding, same, held, here⟩
  obtain ⟨bulkhead, entry, found, entered⟩ := lodged.entered id operation index taken
  obtain ⟨service, rest, leads⟩ := (attended.tasks id task.holding holding).leads running
  obtain ⟨policy, resolved, declared⟩ :=
    Option.bind_eq_some_iff.mp (Invocation.service_enters leads entered)
  exact ⟨policy, bulkhead, resolved, declared, found⟩

theorem length_le_sum {member : Nat → TaskId → Prop} {limit : Nat → Nat}
    (limited : ∀ index (ids : List TaskId), ids.Nodup → (∀ id ∈ ids, member index id) →
      ids.length ≤ limit index)
    (indices : List Nat) {ids : List TaskId} (distinct : ids.Nodup)
    (grouped : ∀ id ∈ ids, ∃ index ∈ indices, member index id) :
    ids.length ≤ (indices.map limit).sum := by
  classical
  induction indices generalizing ids with
  | nil =>
    cases ids with
    | nil => exact Nat.le_refl _
    | cons id rest =>
      obtain ⟨index, none, -⟩ := grouped id (.head _)
      cases none
  | cons index rest inductionHypothesis =>
    have here := limited index (ids.filter (member index ·)) (distinct.filter _)
      fun id found => by simpa using (List.mem_filter.mp found).2
    have elsewhere : (ids.filter fun id => !decide (member index id)).length ≤
        (rest.map limit).sum := by
      refine inductionHypothesis (distinct.filter _) fun id found => ?_
      obtain ⟨present, away⟩ := List.mem_filter.mp found
      obtain ⟨other, listed, joins⟩ := grouped id present
      rcases List.mem_cons.mp listed with rfl | later
      · simp [joins] at away
      · exact ⟨other, later, joins⟩
    have parts := List.length_eq_length_filter_add (l := ids) (member index ·)
    rw [List.map_cons, List.sum_cons]
    omega

/-- However invocations and changes of policies interleave: successive bulkheads of an operation
have different policies. Those who have slots of one bulkhead were all admitted under its policy,
which limits how many they are. And those who have slots of some bulkheads are no more than these
allow together. -/
theorem holders_limited (engine : Engine Outcome) {moves : List (Move Outcome)}
    {stage : Stage Outcome} (onward : Onward ⟨engine.blank, none⟩ moves stage)
    (operation : OperationId) :
    let policies := stage.engine.policies operation
    policies.IsChain (· ≠ ·) ∧
      (∀ index (ids : List TaskId), ids.Nodup →
        (∀ id ∈ ids, stage.engine.Holds operation index id) → ∀ id ∈ ids, ∃ policy bulkhead,
          resolved? (history (own id moves)) = some policy ∧ policy.bulkhead = some bulkhead ∧
            policies[index]? = some bulkhead ∧ ids.length ≤ bulkhead.maxConcurrent.toNat) ∧
      ∀ (indices : List Nat) (ids : List TaskId), ids.Nodup →
        (∀ id ∈ ids, ∃ index ∈ indices, stage.engine.Holds operation index id) →
          ids.length ≤ (indices.map fun index =>
            (policies[index]?.map fun policy => policy.maxConcurrent.toNat).getD 0).sum := by
  intro policies
  have course : Course ([] ++ moves) stage :=
    onward.course (.start { engine with registry := {} })
  have limited (index : Nat) (ids : List TaskId) (distinct : ids.Nodup)
      (hold : ∀ id ∈ ids, stage.engine.Holds operation index id) (id : TaskId)
      (member : id ∈ ids) : ∃ policy bulkhead,
        resolved? (history (own id moves)) = some policy ∧ policy.bulkhead = some bulkhead ∧
          policies[index]? = some bulkhead ∧ ids.length ≤ bulkhead.maxConcurrent.toNat := by
    obtain ⟨policy, bulkhead, resolved, declared, found⟩ :=
      (hold id member).admitted course.attended course.lodged
    have valid := onward.resolved_valid Registry.sound_empty resolved
    refine ⟨policy, bulkhead, resolved, declared, found, ?_⟩
    rw [← valid.slots_eq declared]
    exact length_le_slots course.attended found distinct hold
  refine ⟨course.lodged.changes operation, limited, fun indices ids distinct hold => ?_⟩
  refine length_le_sum (fun index ids distinct hold => ?_) indices distinct hold
  cases ids with
  | nil => exact Nat.zero_le _
  | cons id rest =>
    obtain ⟨-, bulkhead, -, -, found, most⟩ := limited index _ distinct hold id (.head _)
    rw [found]
    exact most

def solo (queueSize : UInt32) : Policy :=
  { bulkhead := some { maxConcurrent := 1, queueSize } }

/-- An engine whose operation has got another policy while a call went on. -/
def reformed : Engine Outcome :=
  (((blank {}).register "pay" (solo 1)).2.joined.register "pay" (solo 0)).2

theorem reformed_onward :
    ∃ moves, Onward ⟨blank {}, none⟩ moves ⟨reformed.joined, none⟩ ∧
      ∀ id ∈ [0, 1], (resolved? (history (own id moves))).bind Policy.bulkhead =
        some ⟨1, if id = 0 then 1 else 0⟩ := by
  have first : Onward ⟨blank {}, none⟩ [] ⟨((blank {}).register "pay" (solo 1)).2, none⟩ :=
    .step .refl (.change _ (.register "pay" (solo 1))) rfl
  have held := (first.invoke "pay" "" gated true false).further (run_starting _ rfl) rfl
  have changed := held.step (.change _ (.register "pay" (solo 0))) rfl
  have both := (changed.invoke "pay" "" gated true false).further (run_starting reformed rfl) rfl
  exact ⟨_, both, by decide +kernel⟩

theorem reformed_holds : ∀ id ∈ [0, 1], reformed.joined.Holds "pay" id id := by
  have first : reformed.joined.Occupies "pay" 0 (.slot 0) := ⟨_, rfl, rfl, rfl, rfl⟩
  have second : reformed.joined.Occupies "pay" 1 (.slot 1) := ⟨_, rfl, rfl, rfl, rfl⟩
  exact List.forall_mem_cons.mpr ⟨.inl first, List.forall_mem_singleton.mpr (.inl second)⟩

/-- Two calls that were admitted to one slot each have two slots, which is what both bulkheads allow
together. -/
theorem holders_limited_reformed :
    (∀ id ∈ [0, 1], ∃ index ∈ [0, 1], reformed.joined.Holds "pay" index id) ∧
      [0, 1].length ≤ ([0, 1].map fun index => ((reformed.joined.policies "pay")[index]?.map
        fun policy => policy.maxConcurrent.toNat).getD 0).sum := by
  obtain ⟨moves, onward, -⟩ := reformed_onward
  have hold : ∀ id ∈ [0, 1], ∃ index ∈ [0, 1], reformed.joined.Holds "pay" index id :=
    fun id member => ⟨id, member, reformed_holds id member⟩
  exact ⟨hold, (holders_limited {} onward "pay").2.2 [0, 1] [0, 1] (by decide) hold⟩

/-- No one policy limits those who have slots of several bulkheads. -/
theorem holders_exceed_policies :
    ∃ moves stage, Onward ⟨blank {}, none⟩ moves stage ∧
      ∃ ids : List TaskId, ids.Nodup ∧ (∀ id ∈ ids, ∃ index, stage.engine.Holds "pay" index id) ∧
        ∀ id ∈ ids, ∃ bulkhead,
          (resolved? (history (own id moves))).bind Policy.bulkhead = some bulkhead ∧
            bulkhead.maxConcurrent.toNat < ids.length := by
  obtain ⟨moves, onward, admitted⟩ := reformed_onward
  refine ⟨moves, _, onward, [0, 1], by decide, fun id member => ⟨id, reformed_holds id member⟩,
    fun id member => ⟨_, admitted id member, ?_⟩⟩
  exact Nat.one_lt_two

end Engine

end Resilience
