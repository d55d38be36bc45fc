/-!
# Results of calls that can panic

A call that can panic comes to one of three things: a value, an error that it returns, or a panic. A
panic is no error: it belongs to no type of errors, nobody who handles these sees it, and it ends
every call that waits for this one.
-/

namespace Framecast

/-- What a call that can panic comes to. -/
inductive Result (ε α : Type) where
  | ok (value : α)
  | error (error : ε)
  /-- The call did not return; it ended with this message. -/
  | panic (message : String)
  deriving DecidableEq, Repr, Inhabited

namespace Result

variable {ε ε' α β : Type}

/-- Change the value, if there is one. -/
def map (f : α → β) : Result ε α → Result ε β
  | ok a => ok (f a)
  | error e => error e
  | panic message => panic message

/-- Change the error, if there is one. -/
def mapError (f : ε → ε') : Result ε α → Result ε' α
  | ok a => ok a
  | error e => error (f e)
  | panic message => panic message

end Result

end Framecast
