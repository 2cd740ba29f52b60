import Resilience.Proofs.Engine.Abreast
import Resilience.Proofs.Engine.Consultation

/-!
Substitutions: a fallback puts another answer in the place of some, and changes nothing else. Two
engines that go on side by side under policies with different fallbacks make the same calls, come to
the same state and send the same events, whatever their fallbacks make of the answers.
-/

namespace Resilience

open Move Mark Invocation

def Scene.guard (scene : Scene) (operation : OperationId) : Option (Breaker × Metrics) :=
  (scene.states operation).map fun state => (state.breaker, state.metrics)

theorem Scene.guard_vacate (scene : Scene) (operation other : OperationId) (place : Option Place) :
    (scene.vacate operation place).guard other = scene.guard other := by
  cases place with
  | none => rfl
  | some place =>
    show Option.map _ (if operation = other then (scene.states other).map _
      else scene.states other) = _
    split
    · exact Option.map_map ..
    · rfl

namespace Engine

variable {engine twin : Engine Outcome} {id : TaskId} {operation : OperationId}

/-- A place that is still to be given back shows in a bulkhead only. -/
theorem Concludes.guard {scene : Scene} (concludes : engine.Concludes id operation scene)
    (other : OperationId) : engine.scene.guard other = scene.guard other := by
  cases concludes with
  | ended left => rw [left]
  | handling nears =>
    obtain ⟨task, -, -, -, settles⟩ := nears.found
    rw [← settles, Scene.guard_vacate]

theorem Footing.guard {service : Service} {past past' : List Exchange}
    (footing : Footing operation service id engine twin past past') (other : OperationId) :
    engine.scene.guard other = twin.scene.guard other := by
  cases footing with
  | together tandem => rw [tandem.scenes]
  | ended scenes => rw [scenes]
  | parted _ concludes concludes' =>
    exact (concludes.guard other).trans (concludes'.guard other).symm

end Engine

def Engine.stinted {α : Type} (engine : Engine α) (id : TaskId) : Engine α :=
  { engine with stint := .start id, stints := engine.stints + 1 }

/-- How two results of one invocation go together: they are the same where there is no policy, and
else each is what the fallback of its policy makes of the outcome that both had before. -/
inductive Matched (operation : OperationId) (input : String) (mine mine' : List (Move Outcome))
    (result result' : Outcome) : Prop
  | unregistered (unfound : resolved? (history mine) = none)
      (unfound' : resolved? (history mine') = none) (unconsulted : Unconsulted mine)
      (unconsulted' : Unconsulted mine') (same : result' = result) :
      Matched operation input mine mine' result result'
  | recovered {policy twin : Policy} {outcome : Outcome}
      (found : resolved? (history mine) = some policy)
      (found' : resolved? (history mine') = some twin) (refitted : policy.Refitted twin)
      (recovers : Recovers operation policy input mine outcome result)
      (recovers' : Recovers operation twin input mine' outcome result') :
      Matched operation input mine mine' result result'

namespace Matched

variable {operation : OperationId} {input : String} {mine mine' : List (Move Outcome)}
  {result result' : Outcome}

theorem symm (matched : Matched operation input mine mine' result result') :
    Matched operation input mine' mine result' result := by
  cases matched with
  | unregistered unfound unfound' unconsulted unconsulted' same =>
    exact .unregistered unfound' unfound unconsulted' unconsulted same.symm
  | recovered found found' refitted recovers recovers' =>
    refine .recovered found' found ?_ recovers' recovers
    obtain ⟨fallback, rfl⟩ := refitted
    exact ⟨_, rfl⟩

theorem differs (matched : Matched operation input mine mine' result result')
    (differs : result' ≠ result) : ∃ policy twin fault fallback category,
      resolved? (history mine) = some policy ∧ resolved? (history mine') = some twin ∧
        (Answers policy fallback fault category ∨ Answers twin fallback fault category) ∧
          Recovers operation policy input mine (.error fault) result ∧
            Recovers operation twin input mine' (.error fault) result' := by
  cases matched with
  | unregistered _ _ _ _ same => exact absurd same differs
  | recovered found found' _ recovers recovers' =>
    cases recovers with
    | answered answers called handled =>
      exact ⟨_, _, _, _, _, found, found', .inl answers, .answered answers called handled,
        recovers'⟩
    | missing answers uncalled unregistered =>
      exact ⟨_, _, _, _, _, found, found', .inl answers, .missing answers uncalled unregistered,
        recovers'⟩
    | kept unanswered unconsulted =>
      cases recovers' with
      | kept => exact absurd rfl differs
      | answered answers called handled =>
        exact ⟨_, _, _, _, _, found, found', .inr answers, .kept unanswered unconsulted,
          .answered answers called handled⟩
      | missing answers uncalled unregistered =>
        exact ⟨_, _, _, _, _, found, found', .inr answers, .kept unanswered unconsulted,
          .missing answers uncalled unregistered⟩

/-- A failure without a category stays what it is. -/
theorem keeps (matched : Matched operation input mine mine' result result') {fault : Fault}
    (uncategorized : fault.category? = none) (failed : result = .error fault)
    (unconsulted : Unconsulted mine) : result' = .error fault ∧ Unconsulted mine' := by
  cases matched with
  | unregistered _ _ _ unconsulted' same => exact ⟨same.trans failed, unconsulted'⟩
  | recovered _ _ _ recovers recovers' =>
    obtain rfl := (recovers.of_unconsulted unconsulted).trans failed
    exact recovers'.of_uncategorized uncategorized

end Matched

/-- What is known of an invocation in a run of its engine. -/
theorem Launched.invoked {id : TaskId} {operation : OperationId} {input : String}
    {service : Service} {moves : List (Move Outcome)} {engine : Engine Outcome}
    (launched : Launched id operation input service moves engine) :
    ∃ looks rest point,
      Invoked ⟨id, operation, false⟩ service input (own id moves) looks rest point := by
  cases launched with
  | @launched before linked cancelled prior later next path others run =>
    subst next
    rw [path, own_append, others, List.nil_append]
    exact before.invoked operation input service linked cancelled run

section Pairs

variable {moves moves' : List (Move Outcome)} {engine twin : Engine Outcome} {id : TaskId}

theorem Entered.matched {operation : OperationId} {input : String} {service : Service}
    {result result' : Outcome}
    (entered : Entered id operation input service moves engine moves' twin)
    (returned : ∃ move ∈ own id moves, move.result? = some result)
    (returned' : ∃ move ∈ own id moves', move.result? = some result') :
    Matched operation input (own id moves) (own id moves') result result' := by
  obtain ⟨looks, rest, point, invoked⟩ := entered.launched.invoked
  obtain ⟨looks', rest', point', invoked'⟩ := entered.launched'.invoked
  obtain ⟨last, member, finished⟩ := returned
  obtain ⟨last', member', finished'⟩ := returned'
  have returns := (invoked.returns member finished).2
  have returns' := (invoked'.returns member' finished').2
  cases entered.alongside.reconciled returns returns' with
  | unregistered unfound unfound' unrecovered unrecovered' same =>
    exact .unregistered unfound unfound' (invoked.unconsulted member finished unrecovered)
      (invoked'.unconsulted member' finished' unrecovered') same
  | recovered found found' refitted recovered recovered' =>
    exact .recovered found found' refitted (invoked.recovers member finished recovered)
      (invoked'.recovers member' finished' recovered')

theorem Tracked.tied (tracked : Tracked id moves engine moves' twin) :
    Tied (own id moves) (own id moves') := by
  cases tracked with
  | foreign unfinished unfinished' => exact .of_unfinished unfinished unfinished'
  | entered entered => exact entered.tied

theorem Abreast.schedule (abreast : Abreast moves engine moves' twin)
    (ready ready' aside aside' : List TaskId) (stint stint' : Stint) (stints stints' : Nat) :
    Abreast moves { engine with ready, aside, stint, stints } moves'
      { twin with ready := ready', aside := aside', stint := stint', stints := stints' } :=
  (abreast.amend (.schedule ready aside stint stints) trivial).amendTwin
    (.schedule ready' aside' stint' stints') trivial

theorem Abreast.wake (abreast : Abreast moves engine moves' twin) (id : TaskId) :
    Abreast moves (engine.wake id) moves' twin ∧ Abreast moves engine moves' (twin.wake id) := by
  have ordered (engine : Engine Outcome) : ∃ ready stint,
      engine.wake id = { engine with ready, stint } := by
    unfold Engine.wake
    split
    · exact ⟨engine.ready, _, rfl⟩
    · split
      · exact ⟨engine.ready, engine.stint, rfl⟩
      · exact ⟨_, engine.stint, rfl⟩
  obtain ⟨ready, stint, same⟩ := ordered engine
  obtain ⟨ready', stint', same'⟩ := ordered twin
  rw [same, same']
  exact ⟨abreast.schedule ready twin.ready _ _ stint twin.stint _ _,
    abreast.schedule engine.ready ready' _ _ engine.stint stint' _ _⟩

theorem Abreast.work (abreast : Abreast moves engine moves' twin)
    (comparable : engine.Comparable twin) (id : TaskId) :
    Abreast (moves ++ (engine.stinted id).turn id) (engine.work id)
      (moves' ++ (twin.stinted id).turn id) (twin.work id) := by
  have started : Abreast moves (engine.stinted id) moves' (twin.stinted id) :=
    abreast.schedule _ _ _ _ _ _ _ _
  have polled := started.poll (comparable.congr rfl rfl rfl rfl) rfl id
  have rested : Abreast (moves ++ (engine.stinted id).turn id)
      { (engine.stinted id).poll id with stint := {} } (moves' ++ (twin.stinted id).turn id)
      { (twin.stinted id).poll id with stint := {} } := polled.schedule _ _ _ _ _ _ _ _
  obtain ⟨woken, woken'⟩ := rested.wake id
  unfold Engine.work
  simp only
  split
  · split
    · exact (woken.wake id).2
    · exact woken
  · split
    · exact woken'
    · exact rested

end Pairs

namespace Engine

end Engine

end Resilience
