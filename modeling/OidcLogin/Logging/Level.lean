import OidcLogin.Text.Case

namespace OidcLogin.Logging

structure Level where
  name : Text
  number : Int
deriving DecidableEq

namespace Level

def trace : Level := ⟨"TRACE", 5⟩
def debug : Level := ⟨"DEBUG", 10⟩
def info : Level := ⟨"INFO", 20⟩
def success : Level := ⟨"SUCCESS", 25⟩
def warning : Level := ⟨"WARNING", 30⟩
def error : Level := ⟨"ERROR", 40⟩
def critical : Level := ⟨"CRITICAL", 50⟩

def standard : List Level := [trace, debug, info, success, warning, error, critical]

def named? (name : Text) : Option Level := standard.find? (·.name = name)

def numbered (number : Int) : Level := ⟨"Level " ++ Text.ofInt number, number⟩

def ofLibraries : List Level := [debug, info, warning, error, critical]

def ofLibrary (number : Int) : Level :=
  (ofLibraries.find? (·.number = number)).getD (numbered number)

-- The level that a library's record gets here: the one of this name if it is known, else the bare
-- number.
def ofRecord (name : Text) (number : Int) : Level := (named? name).getD (numbered number)

def padded (l : Level) : Text := l.name ++ List.replicate (8 - l.name.length) (CodePoint.ofChar ' ')

theorem named?_name {l : Level} (known : l ∈ standard) : named? l.name = some l := by
  simp only [standard, List.mem_cons, List.not_mem_nil, or_false] at known
  rcases known with rfl | rfl | rfl | rfl | rfl | rfl | rfl <;> rfl

end Level

end OidcLogin.Logging
