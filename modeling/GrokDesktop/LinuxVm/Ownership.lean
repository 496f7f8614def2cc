import GrokDesktop.Lib.Cells
import GrokDesktop.Lib.Rely
import GrokDesktop.LinuxVm.Broker

/-!
# Ownership of hypervisor processes and grants

In every interleaving of the broker's calls, a process that a spawn returned alive should be
recorded for its VM or killed, a VM should run exactly when it has a process, and a guest should be
reached only under a grant that was given to the same boot.

`StartVm` gives up the lock while it spawns and does not look at the state of the VM when it has the
lock again, so two overlapping starts leave a process that nobody owns, with a boot that inherits
the grant of another. `GuestControl` reads the identity of the boot without the lock, after the
grant. The properties hold in every run in which a start that completes finds no process for its VM,
and a boot is read while the grant that was checked still stands.
-/

namespace GrokDesktop.LinuxVm

open Resumption Table Multiset BrokerState Program List

/-! ## The properties -/

/-- The guest that a call reaches: its VM and its boot. -/
def reaches : BrokerCall → Option (String × String)
  | .scheduledRunDial vmID bootID _ => some (vmID, bootID)
  | .guestHealthDial vmID bootID => some (vmID, bootID)
  | _ => none

/-- Guest control of a VM was granted while it had the given boot. -/
def GrantedAt (e : Entry BrokerInterface BrokerState) (vmID bootID : String) : Prop :=
  e.event = ⟨.grantGuestControl vmID, .ok ()⟩ ∧
    ∃ vm, e.before.vm? vmID = some vm ∧ vm.bootID = bootID

/-- A running `StartVm` call has the process and is about to record it. -/
def Held (P : Pool BrokerInterface BrokerState BrokerError) (vmID : String) (process : ℕ) : Prop :=
  ∃ k : BrokerReply (.finishStart vmID process) → BrokerProgram Unit,
    Program.call (I := BrokerInterface) (BrokerCall.finishStart vmID process) k ∈ P.tasks

/-- Ownership of the processes and of the grants, in one state of a run and in the run up to it. -/
structure Owned (P : Pool BrokerInterface BrokerState BrokerError) : Prop where
  /-- A process that was spawned alive is killed, recorded, or in the hands of a running call. -/
  processes : ∀ process spawned, P.state.spawned[process]? = some spawned →
    spawned.alive = true → spawned.killed = true ∨
      P.state.processes.lookup spawned.vmID = some process ∨ Held P spawned.vmID process
  /-- A VM runs exactly when it has a process. -/
  running : ∀ vmID, (∃ vm, P.state.vm? vmID = some vm ∧ vm.state = .running) ↔
    ∃ process, P.state.processes.lookup vmID = some process
  /-- A VM has at most one process that is neither killed nor in the hands of a running call. -/
  single : ∀ p q spawned spawned', P.state.spawned[p]? = some spawned →
    P.state.spawned[q]? = some spawned' → spawned.vmID = spawned'.vmID →
    spawned.alive = true → spawned'.alive = true → spawned.killed = false →
    spawned'.killed = false → ¬ Held P spawned.vmID p → ¬ Held P spawned'.vmID q → p = q
  /-- A guest is reached only under a grant to its boot. -/
  granted : ∀ pre e post, P.trace = pre ++ e :: post → ∀ vmID bootID,
    reaches e.event.1 = some (vmID, bootID) → ∃ grant ∈ pre, GrantedAt grant vmID bootID

/-- A start completes while its VM has no process, and a boot is read while the grant and the record
that the call has read still stand. -/
def Undisturbed (s : BrokerState) : BrokerCall → Prop
  | .finishStart vmID _ => s.vms.lookup vmID = none ∨ s.processes.lookup vmID = none
  | .readBoot vmID record => s.grantedTo vmID = true ∧ s.vms.lookup vmID = some record
  | _ => True

instance (s : BrokerState) (c : BrokerCall) : Decidable (Undisturbed s c) :=
  match c with
  | .finishStart vmID _ =>
    inferInstanceAs (Decidable (s.vms.lookup vmID = none ∨ s.processes.lookup vmID = none))
  | .readBoot vmID record =>
    inferInstanceAs (Decidable (s.grantedTo vmID = true ∧ s.vms.lookup vmID = some record))
  | .contextErr | .kvmReady | .recordImage _ | .createVm _ _ _ _ | .beginStart _ | .alive _
  | .readRecord _ | .spawn _ _ | .kill _ | .stopVm _ | .deleteVm _ | .grantGuestControl _
  | .readGrant _ | .readState _ | .readProcess _ | .scheduledRunDial _ _ _
  | .guestHealthDial _ _ | .runnerHealthHook _ => isTrue trivial

/-! ## What a running call has in hand -/

/-- The process that a running call is about to record, and the boot that it has read. -/
structure Hand where
  starting : Option (String × ℕ)
  boot : Option (String × String)

/-- A call that has just begun. -/
def Hand.empty : Hand := ⟨none, none⟩

/-- What a call has in hand after a reply. -/
def Hand.follow (hand : Hand) : (c : BrokerCall) → BrokerReply c → Hand
  | .spawn vm _, .process process true => { hand with starting := some (vm.id, process) }
  | .finishStart _ _, _ => { hand with starting := none }
  | .readBoot vmID _, bootID => { hand with boot := some (vmID, bootID) }
  | _, _ => hand

/-- What a reply says of the VM it is about: a start goes on with the record of its own VM. -/
def Found : (c : BrokerCall) → BrokerReply c → Prop
  | .beginStart vmID, .proceed vm _ => vm.id = vmID
  | _, _ => True

/-- A call records the process that it has in hand, at once, and reaches only the boot it has
read. -/
def handContract : Contract BrokerInterface Hand where
  allowed hand c := match c with
    | .finishStart vmID process => hand.starting = some (vmID, process)
    | c => hand.starting = none ∧ ∀ vmID bootID, reaches c = some (vmID, bootID) →
        hand.boot = some (vmID, bootID)
  next hand c r hand' := hand' = hand.follow c r ∧ Found c r

/-- The calls that leave what is in hand as it is and reach no guest. -/
def Quiet : BrokerCall → Prop
  | .spawn _ _ => False
  | .finishStart _ _ => False
  | .readBoot _ _ => False
  | .scheduledRunDial _ _ _ => False
  | .guestHealthDial _ _ => False
  | _ => True

/-- A quiet call is allowed when no start is under way. -/
lemma allowed_of_quiet {hand : Hand} {c : BrokerCall} (hc : Quiet c)
    (hhand : hand.starting = none) : handContract.allowed hand c := by
  cases c <;> first
    | exact absurd hc id
    | exact ⟨hhand, fun _ _ h => by cases h⟩

/-- A quiet call changes nothing in hand. -/
lemma follow_of_quiet (hand : Hand) {c : BrokerCall} (hc : Quiet c) (r : BrokerReply c) :
    hand.follow c r = hand := by
  cases c <;> first
    | exact absurd hc id
    | rfl

section

variable {α β : Type} {Q : Except BrokerError β → Hand → Prop} {hand : Hand}

lemma wp_quiet {c : BrokerCall} {f : BrokerReply c → BrokerProgram β}
    (hc : Quiet c) (hhand : hand.starting = none)
    (hrest : ∀ r, Found c r → (f r).wp handContract Q hand) :
    ((request c).bind f).wp handContract Q hand := by
  refine ⟨allowed_of_quiet hc hhand, ?_⟩
  rintro r hand' ⟨rfl, hfnd⟩
  rw [follow_of_quiet hand hc r]
  exact hrest r hfnd

lemma wp_check {x : Except BrokerError α} {f : α → BrokerProgram β}
    (herr : ∀ e, Q (.error e) hand) (hok : ∀ a, x = .ok a → (f a).wp handContract Q hand) :
    ((Program.liftExcept x).bind f).wp handContract Q hand := by
  cases x with
  | error e => exact herr e
  | ok a => exact hok a rfl

end

/-! ## The calls of the surface -/

section Surface

variable {config : Config} {peer : PeerIdentity} {hand : Hand} {β : Type}

/-- A call ends with nothing to record. -/
abbrev Ends {α : Type} (p : BrokerProgram α) (hand : Hand) : Prop :=
  p.wp handContract (fun _ h => h.starting = none) hand

variable (hhand : hand.starting = none)
include hhand

lemma ends_liftExcept {x : Except BrokerError β} :
    Ends (Program.liftExcept x) hand :=
  (Program.wp_liftExcept x).2 hhand

variable {f : Unit → BrokerProgram β}

lemma ends_requireKvm (hf : Ends (f ()) hand) : Ends (requireKvm.bind f) hand := by
  refine wp_quiet trivial hhand fun r _ => ?_
  cases r with
  | false => exact hhand
  | true => exact hf

lemma ends_check {α : Type} {x : Except BrokerError α} {f : α → BrokerProgram β}
    (hf : ∀ a, Ends (f a) hand) : Ends ((Program.liftExcept x).bind f) hand :=
  wp_check (fun _ => hhand) fun a _ => hf a

/-- A section under the lock whose outcome is the outcome of the call. -/
lemma ends_section {c : BrokerCall} {f : BrokerReply c → BrokerProgram β}
    (hc : Quiet c) (hf : ∀ r, Ends (f r) hand) : Ends ((request c).bind f) hand :=
  wp_quiet hc hhand fun r _ => hf r

/-- Spawning ends with no start under way. -/
lemma ends_spawnVm {vmID : String} {vmCopy : Vm} (hid : vmCopy.id = vmID) (imagePath : String) :
    Ends (spawnVm vmID vmCopy imagePath) hand := by
  refine ⟨⟨hhand, fun _ _ h => by cases h⟩, ?_⟩
  rintro r _ ⟨rfl, -⟩
  cases r with
  | failed e => exact hhand
  | missing => exact hhand
  | process process alive =>
    cases alive with
    | false => exact ends_section hhand trivial fun _ => hhand
    | true =>
      -- the process is in hand until the last section has recorded or killed it
      refine ⟨by rw [← hid]; rfl, ?_⟩
      rintro r _ ⟨rfl, -⟩
      exact ends_liftExcept rfl

/-- So does the confirmation of a running process. -/
lemma ends_confirmRunning (record : ℕ) (process : Option ℕ) :
    Ends (confirmRunning record process) hand := by
  cases process with
  | none => exact hhand
  | some process =>
    refine ends_section hhand trivial fun alive => ?_
    cases alive with
    | false => exact hhand
    | true =>
      refine ends_section hhand trivial fun vm => ?_
      cases vm <;> exact hhand

variable {bootID : String}

/-- A call that reaches the guest of the boot in hand. -/
lemma ends_dial {c : BrokerCall} {vmID : String} {f : BrokerReply c → BrokerProgram β}
    (hc : reaches c = some (vmID, bootID)) (hboot : hand.boot = some (vmID, bootID))
    (hf : ∀ r, Ends (f r) hand) : Ends ((request c).bind f) hand := by
  have hall : handContract.allowed hand c := by
    cases c <;> first
      | exact ⟨hhand, fun _ _ h => by rw [hboot, ← hc, h]⟩
      | cases hc
  refine ⟨hall, ?_⟩
  rintro r _ ⟨rfl, -⟩
  have hfol : hand.follow c r = hand := by
    cases c <;> first
      | rfl
      | cases hc
  rw [hfol]
  exact hf r

variable {req : GuestControlRequest}

/-- A scheduled run needs the boot in hand. -/
lemma ends_scheduledRun (hboot : hand.boot = some (req.vmID, bootID)) :
    Ends (scheduledRun config req bootID) hand := by
  refine ends_check hhand fun _ => ends_check hhand fun _ => ends_check hhand fun scheduled => ?_
  refine ends_dial hhand rfl hboot fun r => ?_
  cases r with
  | error e => exact hhand
  | ok outcome => exact ends_check hhand fun _ => hhand

lemma ends_healthResponse (method : String) (r : Except String (List UInt8)) :
    Ends (healthResponse method r) hand := by
  cases r with
  | error e => exact hhand
  | ok body => exact ends_check hhand fun _ => hhand

/-- A control method needs the boot in hand. -/
lemma ends_controlMethod (hboot : hand.boot = some (req.vmID, bootID)) :
    Ends (controlMethod config req bootID) hand := by
  rw [controlMethod]
  split
  · exact ends_scheduledRun hhand hboot
  · rw [runnerHealth, dialHealth]
    split
    · exact ends_dial hhand rfl hboot fun r => ends_healthResponse hhand req.method r
    · split
      · exact ends_section hhand trivial fun r => ends_healthResponse hhand req.method r
      · exact hhand

/-- A granted request finds its boot first. -/
lemma ends_controlGranted (req : GuestControlRequest) (record : ℕ) :
    Ends (controlGranted config req record) hand := by
  refine ends_section hhand trivial fun state => ends_check hhand fun _ =>
    ends_section hhand trivial fun process => ?_
  refine ⟨⟨hhand, fun _ _ h => by cases h⟩, ?_⟩
  rintro bootID _ ⟨rfl, -⟩
  cases process with
  | none => exact hhand
  | some process =>
    refine ends_section (by exact hhand) trivial fun alive => ?_
    cases alive with
    | false => exact hhand
    | true => exact ends_controlMethod (by exact hhand) rfl

variable [PathLibrary]

lemma ends_admit (hf : Ends (f ()) hand) :
    Ends ((admitPeer config peer).bind f) hand := by
  refine wp_quiet trivial hhand fun r _ => ?_
  cases r with
  | some e => exact hhand
  | none => exact wp_check (fun _ => hhand) fun _ _ => hf

omit hhand

/-- A start ends with no start under way. -/
lemma ends_startVm (vmID : String) : Ends (startVm config peer vmID) Hand.empty := by
  refine ends_admit rfl <| ends_requireKvm rfl <| wp_quiet trivial rfl fun r hfnd => ?_
  cases r with
  | missing => rfl
  | running record process => exact ends_confirmRunning rfl record process
  | invalidState => rfl
  | imageMissing => rfl
  | proceed vmCopy imagePath => exact ends_spawnVm rfl hfnd imagePath

/-- A guest control request starts nothing. -/
lemma ends_guestControl (req : GuestControlRequest) :
    Ends (guestControl config peer req) Hand.empty := by
  refine ends_admit rfl <| ends_requireKvm rfl <| ends_check rfl fun _ =>
    ends_section rfl trivial fun r => ?_
  obtain ⟨granted, _ | record⟩ := r
  · rfl
  · cases granted with
    | false => rfl
    | true => exact ends_controlGranted rfl req record

/-- Every call of the surface starts and ends with nothing to record. -/
lemma ends_client {p : BrokerProgram Unit} (hp : BrokerClient config p) : Ends p Hand.empty := by
  cases hp with
  | ensureImage image =>
    exact ends_section (c := .recordImage image) rfl trivial fun _ => rfl
  | createVm peer vmID imageID vcpus memoryMiB =>
    refine wp_void <| ends_admit rfl <| ends_requireKvm rfl <| ends_check rfl fun _ => ?_
    exact ends_check rfl fun _ => ends_section rfl trivial fun _ => ends_liftExcept rfl
  | startVm peer vmID => exact wp_void (ends_startVm vmID)
  | stopVm peer vmID =>
    exact wp_void <| ends_admit rfl <| ends_section rfl trivial fun _ => ends_liftExcept rfl
  | deleteVm peer vmID =>
    exact ends_admit rfl <| ends_section rfl trivial fun _ => ends_liftExcept rfl
  | grantGuestControl peer vmID proof =>
    exact ends_admit rfl <| ends_check rfl fun _ =>
      ends_section rfl trivial fun _ => ends_liftExcept rfl
  | guestControl peer req => exact wp_void (ends_guestControl req)

end Surface

/-! ## The state and the hands of the running calls -/

namespace BrokerState

variable {s : BrokerState} {vmID : String}

lemma vm?_eq_some {vm : Vm} :
    s.vm? vmID = some vm ↔ ∃ n, s.vms.lookup vmID = some n ∧ s.records[n]? = some vm :=
  Option.bind_eq_some_iff

/-- A process after a kill is the process before it, marked if it is the one that was killed. -/
lemma spawned_kill {process q : ℕ} {spawned : Spawned}
    (h : (s.kill process).spawned[q]? = some spawned) :
    ∃ old, s.spawned[q]? = some old ∧ spawned.vmID = old.vmID ∧ spawned.alive = old.alive ∧
      (old.killed = true ∨ q = process → spawned.killed = true) := by
  rw [kill, getElem?_modify] at h
  obtain ⟨old, hold, rfl⟩ := Option.map_eq_some_iff.1 h
  refine ⟨old, hold, ?_⟩
  split
  · exact ⟨rfl, rfl, fun _ => rfl⟩
  · exact ⟨rfl, rfl, fun hkill => hkill.resolve_right fun heq => by omega⟩

/-- Stopping removes one process. -/
lemma lookup_stopProcess (other : String) :
    (s.stopProcess vmID).processes.lookup other =
      if other = vmID then none else s.processes.lookup other := by
  unfold stopProcess
  split_ifs with hoth
  · subst hoth
    split
    · exact AList.lookup_erase _ _
    · assumption
  · split
    · exact AList.lookup_erase_ne hoth
    · rfl

/-- A process after the stop of a VM: the recorded one is killed. -/
lemma spawned_stopProcess {q : ℕ} {spawned : Spawned}
    (h : (s.stopProcess vmID).spawned[q]? = some spawned) :
    ∃ old, s.spawned[q]? = some old ∧ spawned.vmID = old.vmID ∧ spawned.alive = old.alive ∧
      (old.killed = true ∨ s.processes.lookup vmID = some q → spawned.killed = true) := by
  unfold stopProcess at h
  cases hproc : s.processes.lookup vmID with
  | none =>
    simp only [hproc] at h
    exact ⟨spawned, h, rfl, rfl, fun hkill => hkill.resolve_right fun heq => by cases heq⟩
  | some process =>
    simp only [hproc] at h
    obtain ⟨old, hold, hid, halive, hkill⟩ := spawned_kill h
    exact ⟨old, hold, hid, halive, fun hor =>
      hkill (hor.imp_right fun heq => (Option.some.inj heq).symm)⟩

@[simp] lemma vms_stopProcess : (s.stopProcess vmID).vms = s.vms := by
  unfold stopProcess
  split <;> rfl

@[simp] lemma records_stopProcess : (s.stopProcess vmID).records = s.records := by
  unfold stopProcess
  split <;> rfl

end BrokerState

/-- What holds of the state, the calls so far, and what the running calls have in hand. -/
structure Consistent (s : BrokerState) (tr : List (Entry BrokerInterface BrokerState))
    (hands : Multiset Hand) : Prop where
  /-- A VM has a record of its own. -/
  record : ∀ vmID n, s.vms.lookup vmID = some n → ∃ vm, s.records[n]? = some vm ∧ vm.id = vmID
  running : ∀ vmID, (∃ vm, s.vm? vmID = some vm ∧ vm.state = .running) ↔
    ∃ process, s.processes.lookup vmID = some process
  owned : ∀ process spawned, s.spawned[process]? = some spawned → spawned.alive = true →
    spawned.killed = true ∨ s.processes.lookup spawned.vmID = some process ∨
      ∃ hand ∈ hands, hand.starting = some (spawned.vmID, process)
  held : ∀ hand ∈ hands, ∀ vmID process, hand.starting = some (vmID, process) →
    ∃ spawned, s.spawned[process]? = some spawned ∧ spawned.vmID = vmID
  granted : ∀ vmID, s.grantedTo vmID = true → ∃ vm, s.vm? vmID = some vm ∧ vm.state = .running ∧
    ∃ grant ∈ tr, GrantedAt grant vmID vm.bootID
  boots : ∀ hand ∈ hands, ∀ vmID bootID, hand.boot = some (vmID, bootID) →
    ∃ grant ∈ tr, GrantedAt grant vmID bootID

namespace Consistent

variable {s : BrokerState} {tr : List (Entry BrokerInterface BrokerState)} {hand : Hand}
  {hands others : Multiset Hand}

section

variable (h : Consistent s tr hands)
include h

/-- One more call in the trace. -/
theorem concat (e : Entry BrokerInterface BrokerState) :
    Consistent s (tr ++ [e]) hands := by
  refine { h with granted := ?_, boots := ?_ }
  · intro vmID hgran
    obtain ⟨vm, hvm, hrun, grant, hgrant, hat⟩ := h.granted vmID hgran
    exact ⟨vm, hvm, hrun, grant, mem_append_left _ hgrant, hat⟩
  · intro hand hhand vmID bootID hboot
    obtain ⟨grant, hgrant, hat⟩ := h.boots hand hhand vmID bootID hboot
    exact ⟨grant, mem_append_left _ hgrant, hat⟩

variable {other vmID : String} {n process : ℕ} {vm : Vm}

/-- A record belongs to one VM only. -/
lemma record_inj (hvm : s.vms.lookup vmID = some n)
    (hoth : s.vms.lookup other = some n) : vmID = other := by
  obtain ⟨vm, hrec, hid⟩ := h.record vmID n hvm
  obtain ⟨vm', hrec', hid'⟩ := h.record other n hoth
  rw [← hid, ← hid', Option.mem_unique hrec hrec']

/-- The record of a VM after the record of one VM was changed. -/
lemma vm?_setRecord {new : Vm}
    (hget : s.vms.lookup vmID = some n) (hrec : s.records[n]? = some vm) :
    (s.setRecord n new).vm? other = if other = vmID then some new else s.vm? other := by
  have hset (m : ℕ) : (s.setRecord n new).records[m]? =
      if m = n then some new else s.records[m]? :=
    getElem?_set_of_some hrec
  rw [BrokerState.vm?, BrokerState.vm?]
  change (s.vms.lookup other).bind _ = _
  split_ifs with hoth
  · subst hoth
    rw [hget, Option.bind_some, hset, if_pos rfl]
  · cases hfnd : s.vms.lookup other with
    | none => rfl
    | some m =>
      have hm : m ≠ n := by
        rintro rfl
        exact hoth (h.record_inj hfnd hget)
      rw [Option.bind_some, Option.bind_some, hset, if_neg hm]

/-- The records after one was changed still belong to their VMs. -/
lemma record_setRecord {m : ℕ} {new : Vm}
    (hrec : s.records[n]? = some vm) (hget : s.vms.lookup vmID = some n)
    (hid : new.id = vm.id) (hoth : s.vms.lookup other = some m) :
    ∃ vm', (s.setRecord n new).records[m]? = some vm' ∧ vm'.id = other := by
  obtain ⟨vm', hvm', hoth'⟩ := h.record other m hoth
  rw [setRecord, getElem?_set_of_some hrec]
  split_ifs with hm
  · subst hm
    refine ⟨new, rfl, ?_⟩
    rw [hid, Option.mem_unique hrec hvm', hoth']
  · exact ⟨vm', hvm', hoth'⟩

/-- A killed process needs no owner. -/
theorem kill (process : ℕ) :
    Consistent (s.kill process) tr hands := by
  refine { h with owned := ?_, held := ?_ }
  · intro q spawned hq halive
    obtain ⟨old, hold, hid, halive', hkill⟩ := BrokerState.spawned_kill hq
    rcases h.owned q old hold (halive'.symm.trans halive) with hold | hold | hold
    · exact .inl (hkill (.inl hold))
    · exact .inr (.inl (by rw [hid]; exact hold))
    · exact .inr (.inr (by rw [hid]; exact hold))
  · intro hand hhand vmID q hstg
    obtain ⟨spawned, hspaw, hid⟩ := h.held hand hhand vmID q hstg
    rw [BrokerState.kill, getElem?_modify, hspaw]
    refine ⟨_, rfl, ?_⟩
    split
    · exact hid
    · exact hid

/-- A new VM has no process. -/
theorem createVm (vmID imageID : String) (vcpus memoryMiB : ℕ)
    (now : ℤ) : Consistent (s.createVm vmID imageID vcpus memoryMiB now).2 tr hands := by
  unfold BrokerState.createVm
  split_ifs with himage hexis
  · exact h
  · exact h
  have hnew : s.vms.lookup vmID = none := by simpa using hexis
  generalize hvm : Vm.new vmID imageID vcpus memoryMiB now = vm
  have hvm? : ∀ other, (s.addRecord vmID vm).vm? other =
      if other = vmID then some vm else s.vm? other := by
    intro other
    simp only [BrokerState.vm?, addRecord, lookup_insert]
    split_ifs with hoth
    · simp
    · cases hfnd : s.vms.lookup other with
      | none => rfl
      | some n =>
        obtain ⟨old, hrec, -⟩ := h.record other n hfnd
        rw [Option.bind_some, Option.bind_some, getElem?_concat_of_some hrec, hrec]
  have hnone : s.vm? vmID = none := by simp [BrokerState.vm?, hnew]
  refine ⟨?_, ?_, h.owned, h.held, ?_, h.boots⟩
  · intro other n hget
    rcases lookup_insert_cases hget with hget | ⟨rfl, rfl⟩
    · obtain ⟨old, hrec, hid⟩ := h.record other n hget
      exact ⟨old, getElem?_concat_of_some hrec, hid⟩
    · exact ⟨vm, by simp [addRecord], by rw [← hvm, Vm.new]⟩
  · intro other
    refine Iff.trans ?_ (h.running other)
    simp only [hvm?]
    split_ifs with hoth
    · subst hoth
      simp [hnone, ← hvm, Vm.new]
    · rfl
  · intro other hgran
    obtain ⟨old, hfnd, hrun, hgrant⟩ := h.granted other hgran
    refine ⟨old, ?_, hrun, hgrant⟩
    rw [hvm?, if_neg, hfnd]
    rintro rfl
    rw [hnone] at hfnd
    cases hfnd

/-- The grants after that of one VM was taken away, if the other VMs are as before. -/
lemma granted_erase {s' : BrokerState} (hgran : s'.granted = s.granted.erase vmID)
    (hvm? : ∀ other, other ≠ vmID → s'.vm? other = s.vm? other) (hoth : s'.grantedTo other = true) :
    ∃ vm, s'.vm? other = some vm ∧ vm.state = .running ∧
      ∃ grant ∈ tr, GrantedAt grant other vm.bootID := by
  rw [BrokerState.grantedTo, hgran] at hoth
  have hne : other ≠ vmID := by
    rintro rfl
    simp [AList.lookup_erase] at hoth
  rw [AList.lookup_erase_ne hne] at hoth
  rw [hvm? other hne]
  exact h.granted other hoth

/-- A VM that is not running has no process to lose and no grant. -/
theorem deleteVm (vmID : String) :
    Consistent (s.deleteVm vmID).2 tr hands := by
  unfold BrokerState.deleteVm
  cases hfnd : s.vm? vmID with
  | none => exact h
  | some vm =>
    dsimp only
    split_ifs with hrun
    · exact h
    have hvm? : ∀ other, ({ s with
        vms := s.vms.erase vmID
        granted := s.granted.erase vmID } : BrokerState).vm? other =
        if other = vmID then none else s.vm? other := by
      intro other
      simp only [BrokerState.vm?]
      split_ifs with hoth
      · rw [hoth, AList.lookup_erase, Option.bind_none]
      · rw [AList.lookup_erase_ne hoth]
    refine ⟨?_, ?_, h.owned, h.held, ?_, h.boots⟩
    · intro other n hget
      by_cases hoth : other = vmID
      · rw [hoth, AList.lookup_erase] at hget
        cases hget
      · rw [AList.lookup_erase_ne hoth] at hget
        exact h.record other n hget
    · intro other
      rw [← h.running other]
      simp only [hvm?]
      split_ifs with hoth
      · simp [hoth, hfnd, hrun]
      · rfl
    · exact fun other => h.granted_erase rfl fun other hne => by rw [hvm?, if_neg hne]

/-- A stopped VM has its process killed and its grant taken away. -/
theorem stopVm (vmID : String) (now : ℤ) :
    Consistent (s.stopVm vmID now).2 tr hands := by
  unfold BrokerState.stopVm
  cases hget : s.vms.lookup vmID with
  | none => exact h
  | some n =>
    dsimp only
    cases hrec : s.records[n]? with
    | none => exact h
    | some vm =>
      have hvm? : ∀ other, ({ (s.stopProcess vmID).setRecord n (vm.halted now) with
          granted := s.granted.erase vmID } : BrokerState).vm? other =
          if other = vmID then some (vm.halted now) else s.vm? other := by
        intro other
        rw [← h.vm?_setRecord hget hrec]
        simp [BrokerState.vm?, setRecord]
      refine ⟨?_, ?_, ?_, ?_, ?_, h.boots⟩
      · intro other m hoth
        have hoth : s.vms.lookup other = some m := by
          simpa [setRecord] using hoth
        obtain ⟨vm', hvm', hid⟩ :=
          h.record_setRecord hrec hget (show (vm.halted now).id = vm.id from rfl) hoth
        exact ⟨vm', by simpa [setRecord] using hvm', hid⟩
      · intro other
        change _ ↔ ∃ process, (s.stopProcess vmID).processes.lookup other = some process
        simp only [hvm?, lookup_stopProcess]
        split_ifs with hoth
        · simp [Vm.halted]
        · exact h.running other
      · intro q spawned hq halive
        obtain ⟨old, hold, hid, halive', hkill⟩ := spawned_stopProcess hq
        change _ ∨ (s.stopProcess vmID).processes.lookup spawned.vmID = some q ∨ _
        rw [lookup_stopProcess, hid]
        rcases h.owned q old hold (halive'.symm.trans halive) with hown | hown | hown
        · exact .inl (hkill (.inl hown))
        · by_cases hoth : old.vmID = vmID
          · rw [hoth] at hown
            exact .inl (hkill (.inr hown))
          · rw [if_neg hoth]
            exact .inr (.inl hown)
        · exact .inr (.inr hown)
      · intro hand hhand other q hstg
        obtain ⟨spawned, hspaw, hid⟩ := h.held hand hhand other q hstg
        unfold stopProcess
        cases hproc : s.processes.lookup vmID with
        | none => exact ⟨spawned, hspaw, hid⟩
        | some process => exact (h.kill process).held hand hhand other q hstg
      · exact fun other => h.granted_erase rfl fun other hne => by rw [hvm?, if_neg hne]

/-- A grant is given to the boot of a running VM. -/
theorem grantGuestControl (vmID : String) :
    Consistent (s.grantGuestControl vmID).2
      (tr ++ [⟨s, .grantGuestControl vmID, (s.grantGuestControl vmID).1⟩]) hands := by
  have hconc := h.concat ⟨s, .grantGuestControl vmID, (s.grantGuestControl vmID).1⟩
  unfold BrokerState.grantGuestControl at hconc ⊢
  cases hfnd : s.vm? vmID with
  | none =>
    simp only [hfnd] at hconc ⊢
    exact hconc
  | some vm =>
    simp only [hfnd] at hconc ⊢
    split_ifs at hconc ⊢ with hrun
    · exact hconc
    refine ⟨h.record, h.running, h.owned, h.held, ?_, hconc.boots⟩
    intro other hgran
    by_cases hoth : other = vmID
    · subst hoth
      refine ⟨vm, hfnd, not_not.1 hrun, _, List.mem_append_right _ (List.mem_singleton_self _),
        rfl, vm, hfnd, rfl⟩
    · refine hconc.granted other ?_
      rw [BrokerState.grantedTo, lookup_insert_of_ne _ _ hoth] at hgran
      exact hgran

end

/-- A process that was spawned alive is in the hands of the call. -/
theorem spawned (h : Consistent s tr (hand ::ₘ others)) (hhand : hand.starting = none)
    (vmID : String) : Consistent { s with spawned := s.spawned ++ [⟨vmID, true, false⟩] } tr
      ({ hand with starting := some (vmID, s.spawned.length) } ::ₘ others) := by
  refine { h with
    owned := ?_, held := ?_
    boots := forall_mem_cons.2 (forall_mem_cons.1 h.boots) }
  · intro process spawned hproc halive
    rcases getElem?_concat_eq_some.1 hproc with hold | ⟨hnew, rfl⟩
    · rcases h.owned process spawned hold halive with hown | hown | ⟨other, hoth, hown⟩
      · exact .inl hown
      · exact .inr (.inl hown)
      · rcases mem_cons.1 hoth with rfl | hoth
        · rw [hhand] at hown
          cases hown
        · exact .inr (.inr ⟨other, mem_cons_of_mem hoth, hown⟩)
    · exact .inr (.inr ⟨_, mem_cons_self _ _, by rw [hnew]⟩)
  · intro other hoth vm process hstar
    rcases mem_cons.1 hoth with rfl | hoth
    · obtain ⟨rfl, rfl⟩ := Prod.mk.inj (Option.some.inj hstar)
      exact ⟨_, getElem?_concat_eq_some.2 (.inr ⟨rfl, rfl⟩), rfl⟩
    · obtain ⟨old, hold, hid⟩ :=
        h.held other (mem_cons_of_mem hoth) vm process hstar
      exact ⟨old, getElem?_concat_of_some hold, hid⟩

/-- A process that was not alive when its spawn returned needs no owner. -/
lemma stillborn (h : Consistent s tr hands) (vmID : String) :
    Consistent { s with spawned := s.spawned ++ [⟨vmID, false, false⟩] } tr hands := by
  refine { h with owned := ?_, held := ?_ }
  · intro process spawned hproc halive
    rcases getElem?_concat_eq_some.1 hproc with hold | ⟨-, rfl⟩
    · exact h.owned process spawned hold halive
    · cases halive
  · intro other hoth vm process hstg
    obtain ⟨old, hold, hid⟩ := h.held other hoth vm process hstg
    exact ⟨old, getElem?_concat_of_some hold, hid⟩

/-- A call ends when the process in its hands, if any, has another owner. -/
theorem ended (h : Consistent s tr (hand ::ₘ others))
    (howned : ∀ vmID process spawned, hand.starting = some (vmID, process) →
      s.spawned[process]? = some spawned →
        spawned.killed = true ∨ s.processes.lookup spawned.vmID = some process) :
    Consistent s tr others := by
  refine { h with
    owned := ?_
    held := (forall_mem_cons.1 h.held).2
    boots := (forall_mem_cons.1 h.boots).2 }
  intro q spawned hq halive
  rcases h.owned q spawned hq halive with hown | hown | ⟨other, hoth, hown⟩
  · exact .inl hown
  · exact .inr (.inl hown)
  · rcases mem_cons.1 hoth with rfl | hoth
    · exact (howned _ _ spawned hown hq).imp_right .inl
    · exact .inr (.inr ⟨other, hoth, hown⟩)

/-- One more call, with no process in its hands and a boot that was granted, if any. -/
lemma added (h : Consistent s tr hands) (hhand : hand.starting = none)
    (hboot : ∀ vmID bootID, hand.boot = some (vmID, bootID) →
      ∃ grant ∈ tr, GrantedAt grant vmID bootID) : Consistent s tr (hand ::ₘ hands) := by
  refine { h with
    owned := ?_
    held := forall_mem_cons.2 ⟨fun _ _ hstar => ?_, h.held⟩
    boots := forall_mem_cons.2 ⟨hboot, h.boots⟩ }
  · intro process spawned hproc halive
    refine (h.owned process spawned hproc halive).imp_right fun hor => hor.imp_right ?_
    rintro ⟨other, hoth, hown⟩
    exact ⟨other, mem_cons_of_mem hoth, hown⟩
  · rw [hhand] at hstar
    cases hstar

/-- A call that puts down what it was about to record, when the process has an owner. -/
lemma putDown (h : Consistent s tr (hand ::ₘ others))
    (hhand : hand.starting = some (vmID, process))
    (howned : ∀ spawned, s.spawned[process]? = some spawned →
      spawned.killed = true ∨ s.processes.lookup spawned.vmID = some process) :
    Consistent s tr ({ hand with starting := none } ::ₘ others) := by
  refine (h.ended fun _ _ spawned hstar hspaw => ?_).added rfl (forall_mem_cons.1 h.boots).1
  obtain ⟨-, rfl⟩ := Prod.mk.inj (Option.mem_unique hhand hstar)
  exact howned spawned hspaw

/-- A process that is recorded while its VM has none. -/
theorem install (h : Consistent s tr hands) (hget : s.vms.lookup vmID = some n)
    (hrec : s.records[n]? = some vm) (hfree : s.processes.lookup vmID = none) (bootID : String)
    (now : ℤ) :
    Consistent { s.setRecord n (vm.started bootID now) with
      processes := s.processes.insert vmID process } tr hands := by
  have hvm? : ∀ other, ({ s.setRecord n (vm.started bootID now) with
      processes := s.processes.insert vmID process } : BrokerState).vm? other =
      if other = vmID then some (vm.started bootID now) else s.vm? other :=
    fun other => h.vm?_setRecord hget hrec
  refine ⟨?_, ?_, ?_, h.held, ?_, h.boots⟩
  · intro other m hoth
    exact h.record_setRecord hrec hget (show (vm.started bootID now).id = vm.id from rfl) hoth
  · intro other
    simp only [hvm?, lookup_insert]
    split_ifs with hoth
    · simp [Vm.started]
    · exact h.running other
  · intro q spawned hq halive
    rcases h.owned q spawned hq halive with hown | hown | hown
    · exact .inl hown
    · exact .inr (.inl (lookup_insert_of_new hfree hown))
    · exact .inr (.inr hown)
  · intro other hgran
    obtain ⟨old, hold, hrun, hgrant⟩ := h.granted other hgran
    obtain ⟨q, hq⟩ := (h.running other).1 ⟨old, hold, hrun⟩
    have hoth : other ≠ vmID := by
      rintro rfl
      rw [hfree] at hq
      cases hq
    simp only [hvm?, if_neg hoth]
    exact ⟨old, hold, hrun, hgrant⟩

/-- The last section of a start that finds no process for its VM. -/
theorem finishStart [Sha256Library] (h : Consistent s tr (hand ::ₘ others))
    (hhand : hand.starting = some (vmID, process))
    (hguard : Undisturbed s (.finishStart vmID process)) (time now : ℤ) :
    Consistent (s.finishStart vmID process time now).2 tr
      ({ hand with starting := none } ::ₘ others) := by
  have hkill : Consistent (s.kill process) tr ({ hand with starting := none } ::ₘ others) := by
    refine (h.kill process).putDown hhand fun spawned hspaw => .inl ?_
    obtain ⟨old, -, -, -, hkilled⟩ := BrokerState.spawned_kill hspaw
    exact hkilled (.inr rfl)
  unfold BrokerState.finishStart
  cases hget : s.vms.lookup vmID with
  | none => exact hkill
  | some n =>
    dsimp only
    cases hrec : s.records[n]? with
    | none => exact hkill
    | some vm =>
      have hfree : s.processes.lookup vmID = none := by
        rcases hguard with hnone | hfree
        · rw [hnone] at hget
          cases hget
        · exact hfree
      refine (h.install hget hrec hfree _ now).putDown hhand fun spawned hspaw => .inr ?_
      obtain ⟨old, hold, hid⟩ := h.held hand (mem_cons_self _ _) vmID process hhand
      obtain rfl := Option.mem_unique hold hspaw
      rw [hid]
      exact lookup_insert_self _ _ _

/-- A boot that is read while the grant stands was granted. -/
theorem readBoot (h : Consistent s tr (hand ::ₘ others)) (hhand : hand.starting = none)
    (hguard : Undisturbed s (.readBoot vmID n)) :
    Consistent s tr
      ({ hand with boot := some (vmID, (s.records[n]?.map Vm.bootID).getD "") } ::ₘ others) := by
  refine (h.ended fun _ _ spawned hstar => ?_).added hhand fun other bootID hboot => ?_
  · rw [hhand] at hstar
    cases hstar
  · obtain ⟨rfl, rfl⟩ := Prod.mk.inj (Option.some.inj hboot)
    obtain ⟨record, hfnd, -, hgrant⟩ := h.granted _ hguard.1
    obtain ⟨m, hm, hrec⟩ := BrokerState.vm?_eq_some.1 hfnd
    obtain rfl := Option.mem_unique hm hguard.2
    rw [hrec]
    exact hgrant

lemma initial : Consistent .initial [] 0 where
  record vmID n h := by cases h
  running vmID := by simp [BrokerState.vm?, BrokerState.initial]
  owned process spawned h := by simp [BrokerState.initial] at h
  held hand h := by simp at h
  granted vmID h := by simp [BrokerState.grantedTo, BrokerState.initial] at h
  boots hand h := by simp at h

end Consistent

/-! ## Every run -/

section Runs

variable [PathLibrary] {config : Config}

/-- A start goes on with the record of its own VM. -/
lemma found_beginStart {s : BrokerState} {tr : List (Entry BrokerInterface BrokerState)}
    {hands : Multiset Hand} (h : Consistent s tr hands) (vmID : String) :
    Found (.beginStart vmID) (s.beginStart config vmID) := by
  unfold beginStart
  cases hget : s.vms.lookup vmID with
  | none => trivial
  | some n =>
    obtain ⟨vm, hrec, hid⟩ := h.record vmID n hget
    simp only [hrec]
    split_ifs
    · trivial
    · trivial
    · cases s.images.lookup vm.imageID with
      | none => trivial
      | some image => exact hid

variable [Sha256Library]

/-- An answer in a state that meets the guard keeps the state consistent with what the running calls
have in hand. -/
lemma keeps_consistent :
    Pool.KeepsGhosts (broker config Undisturbed) handContract Consistent := by
  rintro s tr hand others c r s' h hall ⟨hguard, hans⟩
  cases hans with
  | beginStart vmID => exact ⟨hand, ⟨rfl, found_beginStart h vmID⟩, h.concat _⟩
  | recordImage image =>
    exact ⟨hand, ⟨rfl, trivial⟩, ⟨h.record, h.running, h.owned, h.held, (h.concat _).granted,
      (h.concat _).boots⟩⟩
  | createVm vmID imageID vcpus memoryMiB now =>
    exact ⟨hand, ⟨rfl, trivial⟩, (h.createVm vmID imageID vcpus memoryMiB now).concat _⟩
  | spawnProcess vm imagePath alive =>
    cases alive with
    | false => exact ⟨hand, ⟨rfl, trivial⟩, (h.stillborn vm.id).concat _⟩
    | true => exact ⟨_, ⟨rfl, trivial⟩, (h.spawned hall.1 vm.id).concat _⟩
  | kill process => exact ⟨hand, ⟨rfl, trivial⟩, (h.kill process).concat _⟩
  | finishStart vmID process time now =>
    exact ⟨_, ⟨rfl, trivial⟩, (h.finishStart hall hguard time now).concat _⟩
  | stopVm vmID now => exact ⟨hand, ⟨rfl, trivial⟩, (h.stopVm vmID now).concat _⟩
  | deleteVm vmID => exact ⟨hand, ⟨rfl, trivial⟩, (h.deleteVm vmID).concat _⟩
  | grantGuestControl vmID => exact ⟨hand, ⟨rfl, trivial⟩, h.grantGuestControl vmID⟩
  | readBoot vmID record => exact ⟨_, ⟨rfl, trivial⟩, (h.readBoot hall.1 hguard).concat _⟩
  | _ => exact ⟨hand, ⟨rfl, trivial⟩, h.concat _⟩

/-- Every guest of the trace was reached under a grant to its boot. -/
def Covered (tr : List (Entry BrokerInterface BrokerState)) : Prop :=
  ∀ pre e post, tr = pre ++ e :: post → ∀ vmID bootID,
    reaches e.event.1 = some (vmID, bootID) → ∃ grant ∈ pre, GrantedAt grant vmID bootID

/-- Every step keeps both invariants. -/
lemma keeps_covered : Pool.KeepsGhosts (broker config Undisturbed) handContract
    fun s tr hands => Consistent s tr hands ∧ Covered tr := by
  rintro s tr hand others c r s' ⟨h, hcov⟩ hall hans
  obtain ⟨hand', hnext, h'⟩ := keeps_consistent s tr hand others c r s' h hall hans
  refine ⟨hand', hnext, h', fun pre e post heq vmID bootID hreach => ?_⟩
  obtain ⟨rfl, rfl⟩ | ⟨post', rfl⟩ := concat_eq_append_cons heq
  · refine h.boots hand (mem_cons_self _ _) vmID bootID ?_
    -- a call reaches only the boot in its hand
    cases c <;> first
      | exact hall.2 vmID bootID hreach
      | cases hreach
  · exact hcov pre e post' rfl vmID bootID hreach

omit [PathLibrary] [Sha256Library] in
/-- A program with a process in hand waits for the last section of its start. -/
lemma held_of_starting {p : BrokerProgram Unit} {hand : Hand} {vmID : String} {process : ℕ}
    (hp : Ends p hand) (hhand : hand.starting = some (vmID, process)) :
    ∃ k : BrokerReply (.finishStart vmID process) → BrokerProgram Unit,
      p = call (I := BrokerInterface) (BrokerCall.finishStart vmID process) k := by
  cases p with
  | done a | fail e => exact absurd (hhand.symm.trans hp) (by simp)
  | call c k =>
    have hall := hp.1
    cases c with
    | finishStart other q =>
      obtain ⟨rfl, rfl⟩ := Prod.mk.inj (Option.mem_unique hhand hall)
      exact ⟨k, rfl⟩
    | _ => exact absurd (hhand.symm.trans hall.1) (by simp)

/-- In every run whose starts complete while their VM has no process and whose boots are read while
the grant that was checked still stands, processes and grants are owned. -/
theorem broker_ownership {P : Pool BrokerInterface BrokerState BrokerError}
    (h : Pool.Runs (broker config Undisturbed) (BrokerClient config) .initial P) : Owned P := by
  obtain ⟨hs, hghos⟩ := h.ghosts (C := handContract) (Q := fun _ hand => hand.starting = none)
    (fun p hp => ends_client hp) ⟨Consistent.initial, fun pre e post heq => by simp at heq⟩
    (fun s tr hands hinv => ⟨hinv.1.added rfl (by simp [Hand.empty]), hinv.2⟩) keeps_covered
  obtain ⟨hconsistent, hcov⟩ := hghos.inv
  have howned : ∀ process spawned, P.state.spawned[process]? = some spawned →
      spawned.alive = true → spawned.killed = true ∨
        P.state.processes.lookup spawned.vmID = some process ∨ Held P spawned.vmID process := by
    intro process spawned hspawned halive
    refine (hconsistent.owned process spawned hspawned halive).imp_right fun hor =>
      hor.imp_right ?_
    rintro ⟨hand, hhand, hstg⟩
    obtain ⟨x, hx, rfl⟩ := mem_map.1 (mem_coe.1 hhand)
    obtain ⟨k, hk⟩ := held_of_starting (hghos.wp x hx) hstg
    exact ⟨k, by rw [← hk, ← hghos.tasks]; exact mem_map_of_mem hx⟩
  refine ⟨howned, hconsistent.running, ?_, hcov⟩
  have hrec : ∀ process spawned, P.state.spawned[process]? = some spawned →
      spawned.alive = true → spawned.killed = false → ¬ Held P spawned.vmID process →
      P.state.processes.lookup spawned.vmID = some process := by
    intro process spawned hspawned halive hkill hheld
    rcases howned process spawned hspawned halive with hown | hown | hown
    · rw [hkill] at hown
      cases hown
    · exact hown
    · exact absurd hown hheld
  intro p q spawned spawned' hp hq hid halive halive' hkill hkill' hheld hheld'
  have hget := hrec p spawned hp halive hkill hheld
  rw [hid] at hget
  exact Option.mem_unique hget (hrec q spawned' hq halive' hkill' hheld')

end Runs

/-! ## Two overlapping starts -/

namespace OverlappingStarts

local instance path : PathLibrary := ⟨id, fun root file => root ++ "/" ++ file⟩

local instance sha256 : Sha256Library := ⟨fun _ => 0⟩

def config : Config where
  imageRoot := "images"
  allowed := [⟨"grok-daemon", 1, 1⟩]
  allowedUIDs := [1000]
  qualification := none
  scheduledRunDial := false
  guestHealthDial := true
  runnerHealthHook := false

def daemon : PeerIdentity := ⟨1000, 1, "grok-daemon", 1, 1⟩

def image : Image := ⟨"base", "base.img", "", 1⟩

/-- An environment in which every spawn returns a live process. -/
def reply (s : BrokerState) : (c : BrokerCall) → BrokerReply c × BrokerState
  | .contextErr => (none, s)
  | .kvmReady => (true, s)
  | .recordImage image => ((), { s with images := s.images.insert image.id image })
  | .createVm vmID imageID vcpus memoryMiB => s.createVm vmID imageID vcpus memoryMiB 0
  | .beginStart vmID => (s.beginStart config vmID, s)
  | .alive _ => (true, s)
  | .readRecord record => (s.records[record]?, s)
  | .spawn vm _ =>
    (.process s.spawned.length true, { s with spawned := s.spawned ++ [⟨vm.id, true, false⟩] })
  | .kill process => ((), s.kill process)
  | .finishStart vmID process => s.finishStart vmID process 0 0
  | .stopVm vmID => s.stopVm vmID 0
  | .deleteVm vmID => s.deleteVm vmID
  | .grantGuestControl vmID => s.grantGuestControl vmID
  | .readGrant vmID => ((s.grantedTo vmID, s.vms.lookup vmID), s)
  | .readState record => (s.records[record]?.map Vm.state, s)
  | .readProcess vmID => (s.processes.lookup vmID, s)
  | .readBoot _ record => ((s.records[record]?.map Vm.bootID).getD "", s)
  | .scheduledRunDial _ _ _ => (.ok "succeeded", s)
  | .guestHealthDial _ _ => (.ok [1], s)
  | .runnerHealthHook _ => (.ok [1], s)

lemma answers_reply (s : BrokerState) (c : BrokerCall) :
    Answers config s c (reply s c).1 (reply s c).2 := by
  cases c <;> constructor

variable (guard : BrokerState → BrokerCall → Bool)

/-- The pool after the calls of the given tasks were answered, in states that meet the guard. -/
abbrev go (order : List ℕ) (P : Pool BrokerInterface BrokerState BrokerError) :
    Pool BrokerInterface BrokerState BrokerError :=
  order.foldl (Pool.advanceIf guard reply) P

lemma runs_go {guard : BrokerState → BrokerCall → Bool}
    {P : Pool BrokerInterface BrokerState BrokerError}
    (h : Pool.Runs (broker config fun s c => guard s c = true) (BrokerClient config) .initial P)
    (order : List ℕ) :
    Pool.Runs (broker config fun s c => guard s c = true) (BrokerClient config) .initial
      (go guard order P) := by
  have hrep : ∀ s c, guard s c = true → (broker config fun s c => guard s c = true).answers s c
      (reply s c).1 (reply s c).2 :=
    fun s c hguard => ⟨hguard, answers_reply s c⟩
  exact h.advanceIf hrep order

/-- A VM was created, and the first call to start it waits for its spawn. -/
def oneStart : Pool BrokerInterface BrokerState BrokerError :=
  go guard [0, 0, 0] ((go guard [0, 0, 0] ((go guard [0] ((Pool.idle .initial).start
    (request (.recordImage image)))).start
      (createVm config daemon "utility" "base" 1 256).void)).start
        (startVm config daemon "utility").void)

lemma runs_oneStart :
    Pool.Runs (broker config fun s c => guard s c = true) (BrokerClient config) .initial
      (oneStart guard) := by
  refine runs_go (.start (runs_go (.start (runs_go (.start .refl ?_) _) ?_) _) ?_) _
  · exact .ensureImage image
  · exact .createVm daemon "utility" "base" 1 256
  · exact .startVm daemon "utility"

/-- A second call starts the VM, and then the first one completes. -/
def twoStarts : Pool BrokerInterface BrokerState BrokerError :=
  go (fun _ _ => true) [0, 0, 0, 0, 0, 1, 1]
    ((oneStart fun _ _ => true).start (startVm config daemon "utility").void)

lemma runs_twoStarts :
    Pool.Runs (broker config fun _ _ => True) (BrokerClient config) .initial twoStarts :=
  (runs_go (.start (runs_oneStart fun _ _ => true) (.startVm daemon "utility")) _).mono
    (fun _ _ _ _ hans => ⟨trivial, hans.2⟩) fun _ hp => hp

/-- Both starts have returned, and the process of the second is alive, neither recorded nor
killed. -/
theorem process_without_owner :
    ¬ ∀ P : Pool BrokerInterface BrokerState BrokerError,
      Pool.Runs (broker config fun _ _ => True) (BrokerClient config) .initial P → Owned P := by
  intro h
  have hreturned : (twoStarts.tasks.all fun task => task.result?.isSome) = true := by
    decide +kernel
  rcases (h twoStarts runs_twoStarts).processes 0 ⟨"utility", true, false⟩ rfl rfl with
    hkill | hrecorded | ⟨k, hk⟩
  · cases hkill
  · exact absurd hrecorded (by decide +kernel)
  · exact absurd (all_eq_true.1 hreturned _ hk) (by simp [result?])

/-- The start completes alone, guest control is granted, and the guest is reached. -/
def served : Pool BrokerInterface BrokerState BrokerError :=
  go (fun s c => decide (Undisturbed s c)) [0, 0, 0, 0, 0, 0, 0, 0, 0]
    ((go (fun s c => decide (Undisturbed s c)) [0, 0]
      ((go (fun s c => decide (Undisturbed s c)) [0, 0]
        (oneStart fun s c => decide (Undisturbed s c))).start
          (grantGuestControl config daemon "utility" "proof-of-possession-token-32b-min"))).start
            (guestControl config daemon ⟨"utility", "runner.health", []⟩).void)

lemma runs_served :
    Pool.Runs (broker config Undisturbed) (BrokerClient config) .initial served := by
  have hruns : Pool.Runs (broker config fun s c => decide (Undisturbed s c) = true)
      (BrokerClient config) .initial served :=
    runs_go (.start (runs_go (.start (runs_go (runs_oneStart _) _)
      (.grantGuestControl daemon "utility" "proof-of-possession-token-32b-min")) _)
      (.guestControl daemon ⟨"utility", "runner.health", []⟩)) _
  exact hruns.mono (fun s c r s' hans => ⟨of_decide_eq_true hans.1, hans.2⟩)
    fun _ hp => hp

/-- Ownership in a run that reaches the guest. -/
theorem broker_ownership_served :
    (served.trace.any fun e => (reaches e.event.1).isSome) = true ∧
      Pool.Runs (broker config Undisturbed) (BrokerClient config) .initial served ∧
      Owned served :=
  ⟨by decide +kernel, runs_served, broker_ownership runs_served⟩

end OverlappingStarts

end GrokDesktop.LinuxVm
