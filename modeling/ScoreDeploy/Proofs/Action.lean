import ScoreDeploy.Host

/-!
# Running actions

`Program.asked` lists the questions of a run. Among `Surroundings` that answer every question of a
command, a run has a value at its end and, on the way, made requests to nodes. A program that only
asks the machine, and always comes to one end, is as good as its value there.
-/

namespace ScoreDeploy

namespace Program

variable {I : Interface} {α σ : Type}

/-- The questions of a run, in order. -/
def asked (answer : (r : I.Request) → σ → I.Reply r × σ) : Program I α → σ → List I.Request
  | done _, _ => []
  | ask r next, s => r :: (next (answer r s).1).asked answer (answer r s).2

end Program

/-- What a question asks of a node, and the base address of that node. -/
def Effect.toNode? : Effect → Option (String × Node.Request)
  | .node base request => some (base, request)
  | .host _ => none

/-- Answers every question of a command from a state, which the answer may change. -/
abbrev Surroundings (σ : Type) := (r : Effect) → σ → Effect.Reply r × σ

namespace Surroundings

variable {α σ : Type} (world : Surroundings σ)

/-- What a run gives. -/
def value (program : Program effects α) (s : σ) : α :=
  (Program.run (I := effects) world program s).1

/-- The requests to nodes in a run, in order. -/
def requests (program : Program effects α) (s : σ) : List (String × Node.Request) :=
  (Program.asked (I := effects) world program s).filterMap Effect.toNode?

variable {program : Program effects α}

theorem value_of_ask {r : Effect} {next : Effect.Reply r → Program effects α}
    (h : program = .ask r next) (s : σ) :
    world.value program s = world.value (next (world r s).1) (world r s).2 := by
  rw [h]
  rfl

theorem requests_of_ask_host {r : Host.Request} {next : Host.Reply r → Program effects α}
    (h : program = .ask (Effect.host r) next) (s : σ) :
    world.requests program s =
      world.requests (next (world (.host r) s).1) (world (.host r) s).2 := by
  rw [h]
  rfl

theorem requests_of_ask_node {base : String} {r : Node.Request}
    {next : Node.Reply r → Program effects α} (h : program = .ask (Effect.node base r) next)
    (s : σ) :
    world.requests program s = (base, r) ::
      world.requests (next (world (.node base r) s).1) (world (.node base r) s).2 := by
  rw [h]
  rfl

end Surroundings

/-- The program ends with that value, whatever the machine answers, and asks nodes nothing. -/
inductive EndsIn {α : Type} (value : α) : Program effects α → Prop
  | done : EndsIn value (.done value)
  | host {r : Host.Request} {next : Host.Reply r → Program effects α} :
      (∀ reply, EndsIn value (next reply)) → EndsIn value (.ask (Effect.host r) next)

namespace EndsIn

variable {α σ : Type} {value : α} {program : Program effects α}

theorem value_eq (h : EndsIn value program) (world : Surroundings σ) (s : σ) :
    world.value program s = value := by
  induction h generalizing s with
  | done => rfl
  | host _ ih => exact ih _ _

theorem requests_eq_nil (h : EndsIn value program) (world : Surroundings σ) (s : σ) :
    world.requests program s = [] := by
  induction h generalizing s with
  | done => rfl
  | host _ ih => exact ih _ _

end EndsIn

end ScoreDeploy
