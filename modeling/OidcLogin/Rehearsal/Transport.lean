import OidcLogin.Address.Pinning

namespace OidcLogin.Rehearsal

structure Wire where
  lookup : Lookup
  answer : Http.Outcome
  resolved : List Text
  forwarded : List Forwarded
  notes : List Note

namespace Wire

def start (lookup : Lookup) (answer : Http.Outcome) : Wire := ⟨lookup, answer, [], [], []⟩

def reply : (effect : TransportEffect) → Wire → effect.Reply × Wire
  | .note n, w => ((), { w with notes := w.notes ++ [n] })
  | .resolve host, w => (w.lookup, { w with resolved := w.resolved ++ [host] })
  | .forward f, w => (w.answer, { w with forwarded := w.forwarded ++ [f] })

def run {α : Type} (program : TransportProgram α) (w : Wire) : α × Wire := program.run reply w

end Wire

end OidcLogin.Rehearsal
