import OidcLogin.Proofs.Callback.Course
import OidcLogin.Proofs.Callback.Shared
import OidcLogin.Proofs.Callback.WithClient

namespace OidcLogin

open Program

variable {User : Type}

-- The answers that take their time: those of the network, and the login, which is left to a worker.
def LoginEffect.isAwaited : LoginEffect User → Bool
  | .net (.send ..) => true
  | .login .. => true
  | _ => false

namespace SharedHandler

def underWay {n : Nat} (shared : SharedHandler) (calls : Fin n → CallbackCall) :
    Pool SharedHandler (LoginEffect.Reply : LoginEffect User → Type) (Except Failure Text) n :=
  .start shared fun i => handle (calls i)

-- A callback's history holds its requests, its calls of the host application, its log records and the events of
-- its span, each with the answer.  In whatever order the callbacks take their turns, it is a beginning of the
-- history that the callback has alone; it is all of it, with the same result, once the callback is over; and
-- that is the case after one turn more than it has to wait.
theorem callbacks_are_independent {n : Nat} (shared : SharedHandler) (calls : Fin n → CallbackCall)
    (answers : Fin n → Answers (LoginEffect.Reply : LoginEffect User → Type)) (schedule : List (Fin n)) :
    ((underWay shared calls).after LoginEffect.isAwaited answers schedule).state = shared
      ∧ ∀ i, Runs (shared.callback (calls i)) (alone (answers i) (shared.callback (calls i)) []).1
            (alone (answers i) (shared.callback (calls i)) []).2
          ∧ ((underWay shared calls).after LoginEffect.isAwaited answers schedule).RunsAsAlone i
              (alone (answers i) (shared.callback (calls i)) []) LoginEffect.isAwaited (schedule.count i) := by
  have start := Pool.keeps_start LoginEffect.isAwaited answers shared fun i => onlyReads_handle (calls i)
  have keeps := start.after schedule
  refine ⟨keeps.unchanged, fun i => ⟨?_, ?_⟩⟩
  · obtain ⟨history, same, runs⟩ := runs_alone (answers i) (shared.callback (calls i)) []
    rw [same]
    exact runs
  · have own := keeps.runsAsAlone i
    simp only [Nat.zero_add, settled_handle] at own
    exact own

end SharedHandler

end OidcLogin
