import ChartRender.Command.Basic
import Mathlib
/-!
# Running commands

What a command comes to in a session (`Command.runIn`): a value or an error, and the session it
leaves. A sequence of commands goes on with the session that the first one leaves, and stops at the
first error. Many commands change nothing but the messages (`Command.Tells`), whatever they come to,
and a sequence of such commands is one again.

Key definitions: `Command.runIn`, `Command.Tells`.
Key theorems: `Command.runIn_bind_ok`, `Command.runIn_bind_error`, `Command.Tells.bind`,
`Command.Tells.bind_error`.
-/

namespace ChartRender
namespace Command

variable {α β : Type}

/-- What a command comes to in a session. -/
def runIn (c : Command α) (s : Session) : Except CommandError α × Session := c.run.run s

@[simp] theorem runIn_pure (a : α) (s : Session) : runIn (pure a) s = (.ok a, s) := rfl

@[simp] theorem runIn_modify (f : Session → Session) (s : Session) :
    runIn (modify f) s = (.ok (), f s) := rfl

@[simp] theorem runIn_tell (text : String) (s : Session) :
    runIn (tell text) s = (.ok (), s.tell (text ++ "\n")) := rfl

@[simp] theorem runIn_print (text : String) (s : Session) :
    runIn (print text) s = (.ok (), s.print text) := rfl

@[simp] theorem runIn_get (s : Session) : runIn get s = (.ok s, s) := rfl

theorem runIn_bind_ok {c : Command α} {f : α → Command β} {s s' : Session} {a : α}
    (h : runIn c s = (.ok a, s')) : runIn (c >>= f) s = runIn (f a) s' := by
  unfold runIn at h ⊢
  simp only [ExceptT.run_bind, StateT.run_bind, h]
  rfl

theorem runIn_bind_error {c : Command α} {f : α → Command β} {s s' : Session} {e : CommandError}
    (h : runIn c s = (.error e, s')) : runIn (c >>= f) s = (.error e, s') := by
  unfold runIn at h ⊢
  simp only [ExceptT.run_bind, StateT.run_bind, h]
  rfl

@[simp] theorem runIn_orFail_ok {ε : Type} (toError : ε → CommandError) (a : α) (s : Session) :
    runIn (orFail toError (.ok a)) s = (.ok a, s) := rfl

/-- A note changes nothing but the messages. -/
theorem runIn_note (debug : Bool) (text : String) (s : Session) :
    ∃ messages, runIn (note debug text) s = (.ok (), { s with messages := messages }) := by
  cases debug with
  | false => exact ⟨s.messages, rfl⟩
  | true => exact ⟨_, rfl⟩

/-! ### Commands that only tell -/

/-- A command comes to a result and changes nothing but the messages. -/
def Tells (c : Command α) (s : Session) (r : Except CommandError α) : Prop :=
  ∃ messages, runIn c s = (r, { s with messages := messages })

theorem tells_note (debug : Bool) (text : String) (s : Session) :
    Tells (note debug text) s (.ok ()) := runIn_note debug text s

theorem tells_modify (text : String) (s : Session) :
    Tells (modify (·.tell text)) s (.ok ()) := ⟨s.messages ++ text, rfl⟩

theorem tells_orFail_ok {ε : Type} (toError : ε → CommandError) {x : Except ε α} {a : α}
    (h : x = .ok a) (s : Session) : Tells (orFail toError x) s (.ok a) :=
  ⟨s.messages, by rw [h]; rfl⟩

theorem tells_orFail_error {ε : Type} (toError : ε → CommandError) {x : Except ε α} {e : ε}
    (h : x = .error e) (s : Session) : Tells (orFail toError x) s (.error (toError e)) :=
  ⟨s.messages, by rw [h]; rfl⟩

namespace Tells

variable {c : Command α} {f : α → Command β} {s : Session} {a : α} {e : CommandError}
  {r : Except CommandError β}

theorem pure (a : α) (s : Session) : Tells (Pure.pure a) s (.ok a) := ⟨s.messages, rfl⟩

theorem get (s : Session) : Tells MonadState.get s (.ok s) := ⟨s.messages, rfl⟩

theorem throw (e : CommandError) (s : Session) : Tells (throw e : Command α) s (.error e) :=
  ⟨s.messages, rfl⟩

/-- What follows is run with other messages, but with the same files and output. -/
theorem bind (h : Tells c s (.ok a))
    (hf : ∀ messages, Tells (f a) { s with messages := messages } r) : Tells (c >>= f) s r := by
  obtain ⟨m, hm⟩ := h
  obtain ⟨m', hm'⟩ := hf m
  exact ⟨m', (runIn_bind_ok hm).trans hm'⟩

theorem bind_error (h : Tells c s (.error e)) : Tells (c >>= f) s (.error e) := by
  obtain ⟨m, hm⟩ := h
  exact ⟨m, runIn_bind_error hm⟩

end Tells

end Command
end ChartRender
