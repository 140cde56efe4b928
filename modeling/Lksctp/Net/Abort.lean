-- SUMMARY: `set_abort_on_drop` is for good: whatever is done before the stream is dropped, its socket is closed with an ABORT.
import Lksctp.Net.Safety

/-!
# Aborting

`set_abort_on_drop` sets a linger time of zero, and `abort` sets it and closes the
socket. The promise of the first is about a moment that may be far away: between the
call and the drop of the stream anything may be done with it and with other objects.

Where the application has duplicated a descriptor of the socket, the socket is closed
with the last of them, and the linger time is still zero then.
-/

namespace Lksctp

open Rust Machine Kernel Socket

namespace Net

variable {K : Type} {t : Target} {M : FdKernel t.endian K} {abi : Abi} {w w' : World K} {a : Action}
  {out : Performed K} {acts : List Action} {o : Object} {i : Nat} {d : Desc} {p : Policy}

/-! ## One action -/

/-- What is known of the code of an action is known of the world after it. -/
theorem World.outcome_of_safe {Q : Res (List Object) → Table → Prop}
    (h : Safe M p (a.code t abi M.traced.serve) (M.table w.kernel) Q) :
    ∃ r, Q r (M.table (w.outcome M abi a).world.kernel) ∧
      ((w.outcome M abi a).result = .ok () → ∃ made, r = .ok made) := by
  have hwp := h w.kernel [] rfl nofun
  unfold Io.wp at hwp
  unfold World.outcome
  rcases hrun : (a.code t abi M.traced.serve).exec (w.kernel, []) with ⟨r, k, trace⟩
  rw [hrun] at hwp
  cases r with
  | ok made => exact ⟨.ok made, hwp.2.2, fun _ => ⟨made, rfl⟩⟩
  | error fault => exact ⟨.error fault, hwp.2.2, nofun⟩

/-- The objects that an action leaves are still there. -/
theorem World.mem_outcome (M : FdKernel t.endian K) (abi : Abi) (ho : o ∈ keptBy a w.objects) :
    o ∈ (w.outcome M abi a).world.objects := by
  unfold World.outcome
  rcases (a.code t abi M.traced.serve).exec (w.kernel, []) with ⟨r, k, trace⟩
  cases r with
  | ok made => exact List.mem_append_right made ho
  | error fault => exact ho

/-- Code that borrows a descriptor, as the code of an action. -/
theorem World.outcome_of_on (abi : Abi) (op : Use) {R : Res Unit → Desc → Prop}
    (h : On M p o.fd d (op.run t abi M.traced.serve o.fd) R)
    (hopen : (M.table w.kernel).Has o.fd i d) :
    ∃ r d', (M.table (w.outcome M abi (.use o op)).world.kernel).Has o.fd i d' ∧ d.Retains d' ∧
      R r d' ∧ ((w.outcome M abi (.use o op)).result = .ok () → r = .ok ()) := by
  have hsafe : Safe M p (Action.code t abi M.traced.serve (.use o op)) (M.table w.kernel)
      fun r T' => ∃ r' d', T'.Has o.fd i d' ∧ d.Retains d' ∧ R r' d' ∧
        ((∃ made, r = .ok made) → r' = .ok ()) := by
    apply (h _ i hopen).bind
    · rintro _ T' ⟨d', rfl, hretains, hd'⟩
      exact Safe.pure ⟨_, d', hopen.setFile d', hretains, hd', fun _ => rfl⟩
    · rintro fault T' ⟨d', rfl, hretains, hd'⟩
      exact ⟨_, d', hopen.setFile d', hretains, hd', nofun⟩
  obtain ⟨r, ⟨r', d', hopen', hretains, hd', hr⟩, hresult⟩ := World.outcome_of_safe (w := w) hsafe
  exact ⟨r', d', hopen', hretains, hd', fun hok => hr (hresult hok)⟩

/-! ## A stream that is going to be aborted -/

/-- The stream is there, and closing it sends an ABORT. -/
def Aborting (M : FdKernel t.endian K) (w : World K) (o : Object) : Prop :=
  o ∈ w.objects ∧ o.kind = .stream ∧ ∃ i d, (M.table w.kernel).Has o.fd i d ∧ d.abortOnClose = true

/-- An action of a stream that does not take it uses it. -/
theorem Action.use_of_stream (htyped : a.typed = true) (hactor : a.actor = some o)
    (hkind : o.kind = .stream) (htakes : a.takes = false) :
    ∃ op, a = .use o op ∧ o.kind.lends op = true := by
  cases a with
  | use o' op =>
    obtain rfl : o' = o := Option.some.inj hactor
    exact ⟨op, rfl, htyped⟩
  | accept o' | listenerAccept o' | peeloff o' | endpointPeeloff o' =>
    obtain rfl : o' = o := Option.some.inj hactor
    have hother := of_decide_eq_true htyped
    rw [hkind] at hother
    cases hother
  | new | streamBuilder | listenerBuilder | endpointBuilder | listenerBind | endpointBind
  | streamConnect => cases hactor
  | _ => cases htakes

theorem Aborting.perform (h : Aborting M w o) (howned : w.Owned M False)
    (hout : w.perform M abi a = some out) (hkept : ¬ (a.takes = true ∧ a.actor = some o)) :
    Aborting M out.world o := by
  obtain ⟨ho, hkind, i, d, hopen, habort⟩ := h
  have hsound := howned.perform hout
  obtain ⟨henabled, rfl⟩ := World.perform_eq_some.mp hout
  obtain ⟨htyped, hactor⟩ := World.enabled_iff.mp henabled
  have hmem : o ∈ (w.outcome M abi a).world.objects := by
    apply World.mem_outcome
    exact (mem_keptBy (List.Nodup.of_map _ howned.accounts.nodup)).mpr ⟨ho, hkept⟩
  by_cases hown : a.actor = some o
  · have htakes : a.takes = false := Bool.eq_false_iff.mpr fun htakes => hkept ⟨htakes, hown⟩
    obtain ⟨op, rfl, hlends⟩ := Action.use_of_stream htyped hown hkind htakes
    have huse : On M (Action.policy False (.use o op) (M.table w.kernel)) o.fd d _ _ :=
      Use.on_object (Action.policy_actor rfl) abi False.elim hlends fun hasync => hasync.1.elim
    obtain ⟨_, d', hopen', hretains, -⟩ := World.outcome_of_on abi op huse hopen
    exact ⟨hmem, hkind, i, d', hopen', hretains.abortOnClose habort⟩
  · -- Another object may share the description, but it never takes the ABORT back.
    have hentries := hsound.frame.entries o.fd hopen.ne_none fun o' ho' hfd =>
      hown (howned.eq_of_fd (hactor o' ho') ho hfd ▸ ho')
    have hretains := hsound.frame.retains o.fd i hopen.entry
    rw [hopen.file] at hretains
    exact ⟨hmem, hkind, i, _, ⟨hentries ▸ hopen.entry, rfl⟩, hretains.abortOnClose habort⟩

/-- `set_abort_on_drop` has succeeded. -/
theorem Aborting.of_set (howned : w.Owned M False) (hkind : o.kind = .stream)
    (hout : w.perform M abi (.use o (.set .abortOnClose)) = some out)
    (hok : out.result = .ok ()) : Aborting M out.world o := by
  obtain ⟨henabled, rfl⟩ := World.perform_eq_some.mp hout
  have ho : o ∈ w.objects := (World.enabled_iff.mp henabled).2 o rfl
  obtain ⟨i, d, hopen, -⟩ := Net.Owned.has howned ho
  have hset :
      On M (Action.policy False (.use o (.set .abortOnClose)) (M.table w.kernel)) o.fd d _ _ :=
    On.setAbortOnClose (t := t) (Action.policy_actor rfl)
  obtain ⟨r, d', hopen', -, ⟨-, habort⟩, hr⟩ :=
    World.outcome_of_on abi (.set .abortOnClose) hset hopen
  exact ⟨World.mem_outcome M abi ho, hkind, i, d', hopen', habort (hr hok)⟩

/-! ## Every run -/

/-- No action of a run takes the object. -/
def Leaves (o : Object) (acts : List Action) : Prop :=
  ∀ a ∈ acts, ¬ (a.takes = true ∧ a.actor = some o)

theorem Aborting.run (h : Aborting M w o) (howned : w.Owned M False)
    (hrun : (world M abi).run w acts = some w') (hkept : Leaves o acts) : Aborting M w' o := by
  induction acts generalizing w with
  | nil =>
    obtain rfl : w = w' := by simpa using hrun
    exact h
  | cons a acts ih =>
    obtain ⟨w₁, hstep, hrest⟩ := System.run_cons_eq_some.mp hrun
    obtain ⟨out, hout, rfl⟩ := Option.map_eq_some_iff.mp hstep
    have hfirst := h.perform howned hout (hkept a List.mem_cons_self)
    exact ih hfirst (howned.perform hout).owned hrest fun a ha => hkept a (List.mem_cons_of_mem _ ha)

/-- Dropping an object is one call. -/
theorem World.perform_drop (abi : Abi) (ho : o ∈ w.objects) :
    ∃ out, w.perform M abi (.drop o) = some out ∧
      out.trace = [(M.table w.kernel, .close o.fd)] := by
  refine ⟨w.outcome M abi (.drop o), World.perform_eq_some.mpr ⟨?_, rfl⟩, rfl⟩
  apply World.enabled_iff.mpr
  refine ⟨rfl, ?_⟩
  intro o' ho'
  obtain rfl := Option.some.inj ho'
  exact ho

/-- A stream that `set_abort_on_drop` has been called on is closed with a linger time of zero when
    it is dropped, whatever has been done in between with it and with everything else. -/
theorem abort_on_drop_lasts {rest : List Action} {w₁ w₂ : World K}
    (h : w.Start M) (hrun : (world M abi).run w acts = some w₁) (hkind : o.kind = .stream)
    (hset : w₁.perform M abi (.use o (.set .abortOnClose)) = some out)
    (hok : out.result = .ok ()) (hrest : (world M abi).run out.world rest = some w₂)
    (hkept : Leaves o rest) :
    ∃ dropped, w₂.perform M abi (.drop o) = some dropped ∧
      dropped.trace = [(M.table w₂.kernel, .close o.fd)] ∧
      ∃ i d, (M.table w₂.kernel).Has o.fd i d ∧ d.abortOnClose = true := by
  have howned := h.owned_of_run hrun
  have hstart : Aborting M out.world o := Aborting.of_set howned hkind hset hok
  obtain ⟨ho, -, hopen⟩ := hstart.run (howned.perform hset).owned hrest hkept
  obtain ⟨dropped, hdrop, htrace⟩ := World.perform_drop (M := M) abi ho
  exact ⟨dropped, hdrop, htrace, hopen⟩

/-- The stream is marked, then shut down for writing while another stream is accepted. -/
def Serving.marked : World Files :=
  let set := .use Serving.stream (.set .abortOnClose)
  (Serving.served.outcome Serving.kernel Serving.lp64 set).world

def Serving.meanwhile : List Action :=
  [.use Serving.stream (.shutdown .write), .listenerAccept Serving.listener, .drop Serving.endpoint]

theorem abort_on_drop_lasts_meanwhile :
    ∃ w₂ dropped,
      (world Serving.kernel Serving.lp64).run Serving.marked Serving.meanwhile = some w₂ ∧
      w₂.perform Serving.kernel Serving.lp64 (.drop Serving.stream) = some dropped ∧
      dropped.trace = [(Serving.kernel.table w₂.kernel, .close 2)] ∧
      ∃ i d, (Serving.kernel.table w₂.kernel).Has 2 i d ∧ d.abortOnClose = true := by
  have hsome :
      ((world Serving.kernel Serving.lp64).run Serving.marked Serving.meanwhile).isSome = true := by
    decide +kernel
  obtain ⟨w₂, hrest⟩ := Option.isSome_iff_exists.mp hsome
  have hkept : Leaves Serving.stream Serving.meanwhile := by
    unfold Leaves
    decide
  obtain ⟨dropped, hdrop⟩ := abort_on_drop_lasts Serving.starts Serving.run_actions rfl
    (World.perform_eq_some.mpr ⟨by decide, rfl⟩) (by decide +kernel) hrest hkept
  exact ⟨w₂, dropped, hrest, hdrop⟩

/-! ## abort -/

/-- `abort` as two calls: the second is made when the first has succeeded. -/
theorem exec_abort (abi : Abi) (o : Object) (s : K × FdKernel.Trace) :
    (Action.code t abi M.traced.serve (.abort o)).exec s =
      match (closing M.traced.serve o.fd (setAbortOnClose t M.traced.serve o.fd)).exec s with
      | (.ok _, s) => (.ok [], (M.serve s.1 (.close o.fd)).2, s.2 ++ [(M.table s.1, .close o.fd)])
      | (.error fault, s) => (.error fault, s) := by
  change Io.exec (SctpStream.abort t M.traced.serve o.fd >>= fun _ => pure []) s = _
  rw [SctpStream.abort, bind_assoc, Io.exec_bind]
  rcases (closing M.traced.serve o.fd (setAbortOnClose t M.traced.serve o.fd)).exec s with ⟨r, s'⟩
  cases r with
  | ok => rfl
  | error fault => rfl

/-- An `abort` that reports success has closed the descriptor with a linger time of zero. -/
theorem abort_closes_with_abort (h : w.Start M)
    (hrun : (world M abi).run w acts = some w')
    (hout : w'.perform M abi (.abort o) = some out) (hok : out.result = .ok ()) :
    ∃ T i d, out.trace.getLast? = some (T, .close o.fd) ∧ T.Has o.fd i d ∧
      d.abortOnClose = true := by
  have howned := h.owned_of_run hrun
  obtain ⟨henabled, rfl⟩ := World.perform_eq_some.mp hout
  have ho : o ∈ w'.objects := (World.enabled_iff.mp henabled).2 o rfl
  obtain ⟨i, d, hopen, -⟩ := Net.Owned.has howned ho
  have hmay : (Action.policy False (.abort o) (M.table w'.kernel)).may o.fd := Action.policy_actor rfl
  have hset := Takes.closing (R := fun _ d' => d'.abortOnClose = true) hmay
    ((On.setAbortOnClose (d := d) (M := M) hmay).mono fun r d' hd' a ha => hd'.2 (by rw [ha]))
  have hwp := hset _ i hopen w'.kernel [] rfl nofun
  unfold Io.wp at hwp
  unfold World.outcome at hok ⊢
  rw [exec_abort] at hok ⊢
  rcases hexec : (closing M.traced.serve o.fd (setAbortOnClose t M.traced.serve o.fd)).exec
    (w'.kernel, []) with ⟨r, s⟩
  rw [hexec] at hwp hok
  cases r with
  | error fault => cases hok
  | ok =>
    obtain ⟨-, -, d', hT, -, habort⟩ := hwp
    refine ⟨M.table s.1, i, d', List.getLast?_concat, ?_, habort⟩
    rw [show M.table s.1 = _ from hT]
    exact hopen.setFile d'

theorem abort_closes_with_abort_stream :
    ∃ T i d, (Serving.served.outcome Serving.kernel Serving.lp64
        (.abort Serving.stream)).trace.getLast? = some (T, .close 2) ∧
      T.Has 2 i d ∧ d.abortOnClose = true :=
  abort_closes_with_abort Serving.starts Serving.run_actions
    (World.perform_eq_some.mpr ⟨by decide, rfl⟩) (by decide +kernel)

end Net

end Lksctp
