import EventLoop.Kernel.Actions
import EventLoop.Text.Utf8

/-!
Files for experiments: descriptor numbers in a fixed range are opened, used and closed by hand, and
what passes through them is text.

* `Descriptors.Op` is what can be done with a number, `Descriptors.Answer` what comes back.
* `Descriptors.step` does one operation; a number that does not fit the operation is refused.
-/

namespace EventLoop.Session.Descriptors

/-- The operations on files. -/
inductive Op where
  | pair (a b : Fd)
  | device (fd : Fd)
  | duplicate (source target : Fd)
  | close (fd : Fd)
  | write (fd : Fd) (text : String)
  | read (fd : Fd) (most : Option Nat)
  | shut (fd : Fd)

/-- What an operation answers. -/
inductive Answer where
  | done
  | written (count : Nat)
  | refused (error : OsError)
  | received (text : String) (ending : Kernel.Ending)
  | badNumber

/-- The numbers that may be opened. -/
def inRange (fd : Fd) : Bool := 100 ≤ fd && fd ≤ 199

/-- An operation keeps to the range when every number that it opens lies there. -/
def Op.inRange : Op → Bool
  | pair a b => Descriptors.inRange a && Descriptors.inRange b
  | device fd => Descriptors.inRange fd
  | duplicate _ target => Descriptors.inRange target
  | _ => true

/-- The action that an operation stands for. -/
def Op.action : Op → Kernel.Action
  | pair a b => .pair a b
  | device fd => .device fd
  | duplicate source target => .duplicate source target
  | close fd => .close fd
  | write fd text => .write fd (Text.Utf8.toBytes text)
  | read fd most => .read fd most
  | shut fd => .shut fd

/-- The answer to an operation, in text. -/
def Answer.of : Kernel.Answer → Answer
  | .done => done
  | .written count => written count
  | .refused e => refused e
  | .received bytes ending => received (Text.Utf8.ofBytes bytes) ending

/-- Does one operation. -/
def step (k : Kernel) (op : Op) : Kernel × Answer :=
  if !op.inRange then (k, .badNumber)
  else
    match k.act op.action with
    | none => (k, .badNumber)
    | some (k, answer) => (k, .of answer)

end EventLoop.Session.Descriptors
