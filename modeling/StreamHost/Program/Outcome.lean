import StreamHost.Config.Load

/-!
How a program ends: an exit status, what it printed, and the failure that it ended with, if any.
-/

namespace StreamHost.Program

/-- Why a program fails. -/
inductive Failure where
  | settings (e : Config.LoadError)
  | runtime (e : Error)
  | io (e : IoError)
  /-- The answer did not come in time. -/
  | elapsed
  | complaint (text : String)
  deriving DecidableEq, Repr

namespace Failure

/-- The structured form. -/
def shape : Failure → String
  | settings e => e.shape
  | runtime e => e.shape
  | io e => e.shape
  | elapsed => Shape.wrap "Elapsed" "()"
  | complaint text => Shape.text text

/-- The last words of the program. -/
def text (f : Failure) : String := "Error: " ++ f.shape

/-- Whether the settings had a wrong form. -/
def isMalformed : Failure → Bool
  | settings .notWellFormed | settings (.schema _) => true
  | _ => false

end Failure

namespace Exit

def success : Nat := 0
def failure : Nat := 1
/-- The command line makes no sense. -/
def misuse : Nat := 2
/-- The program gave up in the middle of something. -/
def abort : Nat := 101

end Exit

end StreamHost.Program
