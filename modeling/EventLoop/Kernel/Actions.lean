import EventLoop.Kernel.Files

/-!
What a program does with its files. Every action is either possible and answered, or impossible
because a number is open that must be free or the other way round.

* `Kernel.Action` is what can be done, `Kernel.Answer` what comes back.
* `Kernel.receiveAll` reads until enough was read or nothing more comes.
* `Kernel.act` does one action, where it is possible.
-/

namespace EventLoop.Kernel

/-- What a program does with its files. -/
inductive Action where
  /-- Opens a connected pair under two free numbers. -/
  | pair (a b : Fd)
  /-- Opens the device under a free number. -/
  | device (fd : Fd)
  /-- Opens a source under a free number. -/
  | source (fd : Fd) (state : Readiness)
  /-- Others change what a source is ready for. -/
  | become (fd : Fd) (state : Readiness)
  /-- Opens a free number for a file that is open already. -/
  | duplicate (source target : Fd)
  | close (fd : Fd)
  /-- From now on the next sends take such portions at most. -/
  | ration (portions : List Nat)
  | write (fd : Fd) (data : List UInt8)
  /-- Reads so many bytes, or everything there is. -/
  | read (fd : Fd) (most : Option Nat)
  /-- Announces that nothing more will be written. -/
  | shut (fd : Fd)

/-- Why a read came to its end. -/
inductive Ending where
  /-- As many bytes were read as were asked for. -/
  | satisfied
  /-- There is no more at present. -/
  | again
  /-- There will be no more. -/
  | endOfInput
  /-- The connection broke. -/
  | reset
  /-- The file cannot be read like this. -/
  | unsuitable
deriving DecidableEq

/-- What an action answers. -/
inductive Answer where
  | done
  | written (count : Nat)
  | refused (error : OsError)
  | received (bytes : List UInt8) (ending : Ending)

/-- Why a failed read ended. -/
def Ending.ofError (e : OsError) : Ending :=
  if e = .wouldBlock then .again
  else if e = .connectionReset then .reset
  else .unsuitable

/-- Receives until so many bytes were read, or nothing more comes. -/
def receiveAll (k : Kernel) (fd : Fd) (most : Option Nat) : Kernel × List UInt8 × Ending :=
  let limit := most.getD (k.arrived fd + 1)
  match k.receive fd limit with
  | (k, .error e) => (k, [], .ofError e)
  | (k, .ok []) => (k, [], .endOfInput)
  | (k, .ok bytes) =>
    if bytes.length = limit then (k, bytes, .satisfied)
    else
      match k.receive fd (limit - bytes.length) with
      | (k, .error e) => (k, bytes, .ofError e)
      | (k, .ok more) => (k, bytes ++ more, .endOfInput)

/-- Does one action, where it is possible. -/
def act (k : Kernel) : Action → Option (Kernel × Answer)
  | .pair a b =>
    if !k.isOpen a && !k.isOpen b && a != b then some (k.openPair a b, .done) else none
  | .device fd => if k.isOpen fd then none else some (k.openFile fd .device, .done)
  | .source fd state => if k.isOpen fd then none else some (k.openFile fd (.source state), .done)
  | .become fd state => if k.isOpen fd then some (k.become fd state, .done) else none
  | .duplicate source target =>
    if k.isOpen source && !k.isOpen target then some (k.duplicate source target, .done) else none
  | .close fd => if k.isOpen fd then some (k.close fd, .done) else none
  | .ration portions => some ({ k with portions }, .done)
  | .write fd data =>
    if !k.isOpen fd then none
    else
      match k.send fd data with
      | .ok (k, count) => some (k, .written count)
      | .error e => some (k, .refused e)
  | .read fd most =>
    if !k.isOpen fd then none
    else
      let (k, bytes, ending) := k.receiveAll fd most
      some (k, .received bytes ending)
  | .shut fd => if k.isOpen fd then some (k.shutOutput fd, .done) else none

end EventLoop.Kernel
