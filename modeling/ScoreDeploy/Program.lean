/-!
# Programs that ask questions

A program is either done, or asks its surroundings something and goes on with the answer. What can
be asked, and what the answers look like, is an `Interface`. A program says nothing about who
answers; `run` answers from a state, and `translate` replaces every question by a program over
another interface.
-/

namespace ScoreDeploy

/-- The questions of a program and the type of the answer to each of them. -/
structure Interface where
  /-- What can be asked. -/
  Request : Type
  /-- What is answered. -/
  Reply : Request → Type

/-- A program over an interface. -/
inductive Program (I : Interface) (α : Type) where
  /-- The program has ended. -/
  | done (value : α)
  /-- The program goes on with the answer to a question. -/
  | ask (request : I.Request) (next : I.Reply request → Program I α)

namespace Program

variable {I J : Interface} {α β γ σ : Type}

/-- Goes on with another program after the end. -/
def bind : Program I α → (α → Program I β) → Program I β
  | done value, f => f value
  | ask request next, f => ask request fun reply => (next reply).bind f

instance : Monad (Program I) where
  pure := done
  bind := bind

/-- The program that asks one question. -/
def request (r : I.Request) : Program I (I.Reply r) :=
  ask r done

@[simp]
theorem ask_bind (r : I.Request) (next : I.Reply r → Program I α) (f : α → Program I β) :
    (ask r next).bind f = ask r fun reply => (next reply).bind f := rfl

theorem bind_done (p : Program I α) : p.bind done = p := by
  induction p with
  | done => rfl
  | ask r next ih => simp [ih]

theorem bind_assoc (p : Program I α) (f : α → Program I β) (g : β → Program I γ) :
    (p.bind f).bind g = p.bind fun a => (f a).bind g := by
  induction p with
  | done => rfl
  | ask r next ih => simp [ih]

instance : LawfulMonad (Program I) :=
  LawfulMonad.mk' (Program I) (fun p => bind_done p) (fun _ _ => rfl)
    (fun p f g => bind_assoc p f g)

/-- Answers every question from a state, which the answer may change. -/
def run (answer : (r : I.Request) → σ → I.Reply r × σ) : Program I α → σ → α × σ
  | done value, s => (value, s)
  | ask r next, s =>
    let (reply, s) := answer r s
    (next reply).run answer s

/-- Answers every question in a monad. -/
def runIn {m : Type → Type} [Monad m] (answer : (r : I.Request) → m (I.Reply r)) :
    Program I α → m α
  | done value => pure value
  | ask r next => answer r >>= fun reply => (next reply).runIn answer

/-- Answers every question by a program over another interface, which may change a state. -/
def translate (answer : (r : I.Request) → σ → Program J (I.Reply r × σ)) :
    Program I α → σ → Program J (α × σ)
  | done value, s => done (value, s)
  | ask r next, s => (answer r s).bind fun (reply, s) => (next reply).translate answer s

end Program

end ScoreDeploy
