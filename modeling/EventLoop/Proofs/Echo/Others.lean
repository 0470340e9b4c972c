import EventLoop.Proofs.Echo.Driving

/-!
What the server does for others leaves the connection of a client alone.

* `Echo.Client` is a client with its line to the server.
* `Server.Apart` says that nothing was done to the connection of a client: nothing was moved on its
  line, and its registration, its outbox and its job are the same.
* `Doing.apart` is the main statement here; `connect_apart`, `listen_apart` and `answer_apart` are
  about the rest of what can happen to others.
-/

namespace EventLoop.Echo

/-- A client: the number that the server has for it and its own one, the files behind the two
numbers, and how much an inbox holds. -/
structure Client where
  served : Fd
  own : Fd
  file : FileId
  peer : FileId
  limit : Option Nat

/-- The line of a client, with what is under way to the server and to the client. -/
abbrev Client.Line (c : Client) (k : Kernel) (forServer forClient : List UInt8) : Prop :=
  k.Line c.limit c.served c.own c.file c.peer forServer forClient

/-- Another number is neither of the two. -/
def Client.Other (c : Client) (fd : Fd) : Prop := fd ≠ c.served ∧ fd ≠ c.own

lemma Client.Other.ne {c : Client} {fd x : Fd} (h : c.Other fd) (hx : x = c.served ∨ x = c.own) :
    fd ≠ x := by
  rcases hx with rfl | rfl
  · exact h.1
  · exact h.2

namespace Server

/-- The job in progress, if it is for this connection. -/
def jobOf (s : Server) (fd : Fd) : Option Job := s.job.filter (·.fd == fd)

/-- Nothing was done to the connection of a client. -/
structure Apart (c : Client) (s s' : Server) : Prop where
  files : Kernel.Beside c.file c.peer s.kernel s'.kernel
  registered : s'.loop.reactor.registry.get? c.served = s.loop.reactor.registry.get? c.served
  connected : ∀ fd, fd = c.served ∨ fd = c.own →
    (s'.connections[fd]? = none ↔ s.connections[fd]? = none)
  outbox : s'.outbox c.served = s.outbox c.served
  job : s'.jobOf c.served = s.jobOf c.served

variable {c : Client} {s s' s'' : Server}

lemma Apart.refl (c : Client) (s : Server) : Apart c s s :=
  ⟨.refl _ _ _, rfl, fun _ _ => Iff.rfl, rfl, rfl⟩

lemma Apart.trans (h : Apart c s s') (h' : Apart c s' s'') : Apart c s s'' :=
  ⟨h.files.trans h'.files, h'.registered.trans h.registered,
    fun fd hfd => (h'.connected fd hfd).trans (h.connected fd hfd), h'.outbox.trans h.outbox,
    h'.job.trans h.job⟩

/-- Where only files are used. -/
lemma apart_of_beside {k : Kernel} (h : Kernel.Beside c.file c.peer s.kernel k) :
    Apart c s (s.setKernel k) := ⟨h, rfl, fun _ _ => Iff.rfl, rfl, rfl⟩

/-! ### Connections of others -/

lemma touch_apart (c : Client) (s : Server) (fd : Fd) : Apart c s (s.touch fd) := by
  rw [touch]
  split
  · exact ⟨.refl _ _ _, rfl, fun _ _ => Iff.rfl, rfl, rfl⟩
  · split
    · exact ⟨.refl _ _ _, rfl, fun _ _ => Iff.rfl, rfl, rfl⟩
    · next connection hfd =>
        refine ⟨.refl _ _ _, rfl, fun x _ => ?_, rfl, rfl⟩
        rw [Std.ExtTreeMap.getElem?_insert]
        split
        · next heq =>
            obtain rfl : fd = x := by simpa using heq
            simp [hfd]
        · rfl

lemma requestWrite_apart {fd : Fd} (hfd : fd ≠ c.served) : Apart c s (s.requestWrite fd) := by
  refine ⟨(s.requestWrite_files fd).beside, ?_, fun _ _ => Iff.rfl, rfl, rfl⟩
  have hrequested := s.loop.reactor.requested fd
  show (s.loop.reactor.requestWrite fd).1.registry.get? c.served = _
  generalize (s.loop.reactor.requestWrite fd).1 = r, (s.loop.reactor.requestWrite fd).2.1 = b
    at hrequested
  cases hrequested with
  | refused => rfl
  | already _ _ _ => rfl
  | armed _ _ _ _ => rw [Registry.get?_modify, if_neg hfd]

lemma dropOutbox_apart {fd : Fd} (hfd : fd ≠ c.served) (count : Nat) :
    Apart c s (s.dropOutbox fd count) := by
  refine ⟨.refl _ _ _, rfl, fun _ _ => Iff.rfl, ?_, rfl⟩
  simp [Server.outbox, dropOutbox, Std.ExtTreeMap.getElem?_modify, hfd]

lemma answer_apart {fd : Fd} (hfd : fd ≠ c.served) (bytes : List UInt8) :
    Apart c s (s.answer fd bytes) := by
  have hjoins : Apart c s (s.appendOutbox fd bytes) := by
    refine ⟨.refl _ _ _, rfl, fun _ _ => Iff.rfl, ?_, rfl⟩
    simp [Server.outbox, appendOutbox, Std.ExtTreeMap.getElem?_alter, hfd]
  exact hjoins.trans (requestWrite_apart hfd)

/-- The end of a job for another connection. -/
lemma finishJob_apart (hjob : s.jobOf c.served = none) : Apart c s s.finishJob := by
  cases h : s.job with
  | none =>
      rw [finishJob_of_none h]
      exact .refl c s
  | some job =>
      have hfd : job.fd ≠ c.served := by simpa [jobOf, h, Option.filter_some] using hjob
      have hanswer := answer_apart (s := s) hfd (reply job.request)
      rw [finishJob_eq h]
      exact ⟨hanswer.files, hanswer.registered, hanswer.connected, hanswer.outbox, hjob.symm⟩

lemma assign_apart {fd : Fd} (hfd : fd ≠ c.served) (idle : s.job = none) (request : List UInt8) :
    Apart c s (s.assign fd request) := by
  rw [assign]
  split
  · exact ⟨.refl _ _ _, rfl, fun _ _ => Iff.rfl, rfl, by simp [jobOf, idle, hfd]⟩
  · exact ⟨.refl _ _ _, rfl, fun _ _ => Iff.rfl, rfl, rfl⟩
  · exact .refl c s

lemma remove_get? (r : Reactor Empty) {fd x : Fd} (hx : fd ≠ x) (i : Interest) :
    (r.remove fd i).1.registry.get? x = r.registry.get? x := by
  have hremoved := r.removed fd i
  generalize (r.remove fd i).1 = r', (r.remove fd i).2.1 = b at hremoved
  cases hremoved with
  | refused => rfl
  | removed _ _ _ => rw [Reactor.dropped_get?, if_neg hx]
  | gone _ _ _ _ _ => rw [Reactor.dropped_get?, if_neg hx]

section

variable {forServer forClient : List UInt8} (hline : c.Line s.kernel forServer forClient)
  (hpaired : s.kernel.Paired) {fd : Fd} (hfd : c.Other fd)
include hline hpaired hfd

lemma close_apart : Apart c s (s.close fd) := by
  rw [close]
  split
  · exact .refl c s
  · have hfiles : s.kernel.SameFiles (s.loop.remove fd .both).1.reactor.kernel :=
      (s.loop.reactor.removed fd .both).tells.sameFiles
    have hshut := (hline.beside hfiles.beside).beside_shut (hfiles.paired hpaired) hfd.1 hfd.2
      true true
    refine ⟨hfiles.beside.trans hshut, remove_get? _ hfd.1 _, fun x hx => ?_, rfl, rfl⟩
    simp [setKernel, print, Std.ExtTreeMap.getElem?_erase, hfd.ne hx]

/-- **What the server does for a connection does nothing to that of a client**, unless it is the end
of the client's job. -/
theorem Doing.apart (hdoing : Doing fd s s') : s' = s.finishJob ∨ Apart c s s' := by
  cases hdoing with
  | receives most =>
      exact .inr (apart_of_beside (hline.beside_receive hpaired hfd.1 hfd.2 most))
  | sends sent => exact .inr (apart_of_beside (hline.beside_send hpaired hfd.1 hfd.2 sent))
  | drops count => exact .inr (dropOutbox_apart hfd.1 count)
  | requests => exact .inr (requestWrite_apart hfd.1)
  | touches => exact .inr (touch_apart c s fd)
  | closes => exact .inr (close_apart hline hpaired hfd)
  | complains error => exact .inr ⟨.refl _ _ _, rfl, fun _ _ => Iff.rfl, rfl, rfl⟩
  | completes => exact .inl rfl
  | assigns request idle => exact .inr (assign_apart hfd.1 idle request)

end

/-! ### Other connections and listeners that begin -/

lemma add_apart {fd : Fd} {i : Interest}
    (hadded : ¬((s.loop.add fd i).2.1 = true ∧ fd = c.served))
    (handlers : Std.ExtTreeMap CallbackId Handler) :
    Apart c s { s with loop := (s.loop.add fd i).1, handlers } := by
  have h := s.loop.reactor.added fd i s.loop.nextCallback
  exact ⟨h.tells.sameFiles.beside, h.get?_of_not hadded, fun _ _ => Iff.rfl, rfl, rfl⟩

lemma listen_apart {fd : Fd} (hrefused : ¬((s.loop.add fd .readOnly).2.1 = true ∧ fd = c.served)) :
    Apart c s { s with loop := (s.loop.add fd .readOnly).1 } := add_apart hrefused s.handlers

lemma connect_apart {forServer forClient : List UInt8}
    (hline : c.Line s.kernel forServer forClient) (ho : Orderly s) {fd : Fd}
    (hfd : c.Other fd) : Apart c s (s.connect fd).1 := by
  have hbegun : Apart c s (s.begun fd) := by
    rw [begun_eq ho]
    refine ⟨.refl _ _ _, rfl, fun x hx => ?_, ?_, rfl⟩
    · simp [Std.ExtTreeMap.getElem?_insert, hfd.ne hx]
    · simp [Server.outbox, Std.ExtTreeMap.getElem?_insert, hfd.1]
  have hregister {t u : Server} {i : Interest} {handler : Handler} {b : Bool}
      (ht : Apart c s t) (hpaired : t.kernel.Paired)
      (hregister : t.register fd i handler = (u, b)) : Apart c s u ∧ u.kernel.Paired := by
    simp only [register, Prod.mk.injEq] at hregister
    obtain ⟨rfl, -⟩ := hregister
    exact ⟨ht.trans (add_apart (fun h => hfd.1 h.2) _),
      (t.loop.reactor.added fd i t.loop.nextCallback).tells.sameFiles.paired hpaired⟩
  have hpaired' : (s.begun fd).kernel.Paired := by
    rw [begun_eq ho]
    exact ho.wired.attentive.paired
  have hconnected := connected_of_connect s fd
  generalize (s.connect fd).1 = s' at hconnected
  cases hconnected with
  | unread reads =>
      obtain ⟨ht, htp⟩ := hregister hbegun hpaired' reads
      exact ht.trans (close_apart (hline.beside ht.files) htp hfd)
  | unwritten reads writes =>
      obtain ⟨ht, htp⟩ := hregister hbegun hpaired' reads
      obtain ⟨hu, hup⟩ := hregister ht htp writes
      exact hu.trans (close_apart (hline.beside hu.files) hup hfd)
  | opened reads writes =>
      obtain ⟨ht, htp⟩ := hregister hbegun hpaired' reads
      exact (hregister ht htp writes).1

end Server

end EventLoop.Echo
