import GrokDesktop.VmService.Start

/-!
# What a failed start leaves behind

A start that fails after the grant of the disk has to terminate the compute system it created, to
revoke the grant, to close the guest channel and to clear the record. Every compensation does this
except the one for a failed `Start` of the compute system, which does not revoke the grant.
-/

namespace GrokDesktop.VmService

open Resumption Resumption.Program HcsService

/-! ## What a run did to the outside -/

/-- The calls of a start that act on HCS and on the guest channels. -/
inductive ClientAction where
  | grantVmAccess (hcsId path : String)
  | revokeVmAccess (hcsId path : String)
  | create (hcsId : String)
  | start (hcsId : String)
  | terminate (hcsId : String)
  | ensureChannel (key : ChannelKey)
  deriving DecidableEq

/-- The action of an answered call, and whether it succeeded. -/
def clientOutcome : (c : HcsCall) → c.Reply → Option (ClientAction × Bool)
  | .grantVmAccess hcsId path, r => some (.grantVmAccess hcsId path, r.isOk)
  | .revokeVmAccess hcsId path, r => some (.revokeVmAccess hcsId path, r.isOk)
  | .create hcsId _, r => some (.create hcsId, r.isOk)
  | .start hcsId, r => some (.start hcsId, r.isOk)
  | .terminate hcsId, r => some (.terminate hcsId, r.isOk)
  | .ensureChannel key, connected => some (.ensureChannel key, connected)
  | _, _ => none

/-- The actions of a run with their outcomes, oldest first. -/
def outcomes (events : List (Event hcsInterface)) : List (ClientAction × Bool) :=
  events.filterMap fun e => clientOutcome e.1 e.2

/-- Each element of the first kind has a later one of the second kind. -/
def FollowedBy {α : Type} (p q : α → Prop) : List α → Prop
  | [] => True
  | a :: l => (p a → ∃ b ∈ l, q b) ∧ FollowedBy p q l

/-- Every element of the first part is followed by an element of the second one. -/
theorem FollowedBy.append {α : Type} {p q : α → Prop} {l m : List α}
    (h : ∀ a ∈ l, p a → ∃ b ∈ m, q b) (hm : FollowedBy p q m) : FollowedBy p q (l ++ m) := by
  induction l with
  | nil => exact hm
  | cons a l ih =>
    refine ⟨fun ha => ?_, ih fun a ha => h a (List.mem_cons_of_mem _ ha)⟩
    obtain ⟨b, hb, hq⟩ := h a List.mem_cons_self ha
    exact ⟨b, List.mem_append_right l hb, hq⟩

lemma FollowedBy.exists_of_mem {α : Type} {p q : α → Prop} {l : List α} {a : α}
    (h : FollowedBy p q l) (ha : a ∈ l) (hp : p a) : ∃ b ∈ l, q b := by
  induction l with
  | nil => cases ha
  | cons c l ih =>
    have hlat : ∃ b ∈ l, q b := by
      rcases List.mem_cons.1 ha with rfl | ha
      · exact h.1 hp
      · exact ih h.2 ha
    obtain ⟨b, hb, hq⟩ := hlat
    exact ⟨b, List.mem_cons_of_mem c hb, hq⟩

/-- What a failed start of `vm` may leave: each compute system it created was terminated later,
each grant on the disk was revoked later, no guest channel it asked for or added is registered,
and the record is neither running nor pending. -/
structure LeavesNothing (key : String) (vm : StoredVm) (path : String)
    (done : List (ClientAction × Bool)) (s t : HcsState) : Prop where
  terminated : FollowedBy (· = (.create vm.hcsId, true)) (· = (.terminate vm.hcsId, true)) done
  revoked : FollowedBy (· = (.grantVmAccess vm.hcsId path, true))
    (·.1 = .revokeVmAccess vm.hcsId path) done
  channel_closed : ∀ channel connected, (.ensureChannel channel, connected) ∈ done →
    channel ∉ t.channels.entries
  no_channel_added : ∀ channel ∈ t.channels.entries, channel.vmId = vm.id →
    channel ∈ s.channels.entries
  record : ∃ record, t.service.vms.lookup key = some record ∧ record.state ≠ .running ∧
    record.pendingOperation = none

/-- What the environment has to do for that: the start of the compute system does not fail, and
the termination of a created one does not fail. -/
def StartsAndTerminates (vm : StoredVm) (done : List (ClientAction × Bool)) : Prop :=
  (.start vm.hcsId, false) ∉ done ∧
    ((.create vm.hcsId, true) ∈ done → (.terminate vm.hcsId, false) ∉ done)

/-! ## Calls that leave the outside alone -/

/-- The contract of a start that runs alone, with the actions so far as ghost value. -/
abbrev startContract : Contract hcsInterface (HcsState × List (ClientAction × Bool)) :=
  relyContract hcsSystem Eq (fun done c r => done ++ (clientOutcome c r).toList) fun _ => True

variable {α : Type} {s t : HcsState} {done : List (ClientAction × Bool)}

section Rules

variable {β : Type} {Q : Except ServiceError α → HcsState × List (ClientAction × Bool) → Prop}
  {R : Except ServiceError β → HcsState × List (ClientAction × Bool) → Prop}

/-- The rule of sequence. -/
lemma wp_seq {p : HcsService β} {f : β → HcsService α} (hp : p.wp startContract R (s, done))
    (hok : ∀ b t done', R (.ok b) (t, done') → (f b).wp startContract Q (t, done'))
    (herr : ∀ e t done', R (.error e) (t, done') → Q (.error e) (t, done')) :
    (p >>= f).wp startContract Q (s, done) := by
  refine (wp_bind _ _ _).2 (wp_mono hp ?_)
  rintro (e | b) ⟨t, done'⟩ hR
  · exact herr e t done' hR
  · exact hok b t done' hR

variable {c : HcsCall}

lemma wp_request {f : c.Reply → HcsService α}
    (h : ∀ r t, hcsSystem.answers s c r t →
      (f r).wp startContract Q (t, done ++ (clientOutcome c r).toList)) :
    (request c >>= f).wp startContract Q (s, done) := by
  refine ⟨trivial, ?_⟩
  rintro r ⟨t, done'⟩ ⟨s₁, rfl, hans, rfl⟩
  exact h r t hans

variable {f : Unit → HcsService α}

/-- The rule of a call whose outcome does not matter. -/
lemma wp_ignore
    (h : ∀ r t, hcsSystem.answers s c r t →
      (f ()).wp startContract Q (t, done ++ (clientOutcome c r).toList)) :
    (ignore c >>= f).wp startContract Q (s, done) := by
  refine ⟨trivial, ?_⟩
  rintro r ⟨t, done'⟩ ⟨s₁, rfl, hans, rfl⟩
  exact h r t hans

/-- The rule of a call that is no action. -/
lemma wp_silent {f : c.Reply → HcsService α} (hc : ∀ r, clientOutcome c r = none)
    (h : ∀ r t, hcsSystem.answers s c r t → (f r).wp startContract Q (t, done)) :
    (request c >>= f).wp startContract Q (s, done) := by
  refine wp_request fun r t ht => ?_
  simpa [hc r] using h r t ht

lemma wp_check {x : Except ServiceError β} {f : β → HcsService α}
    (hok : ∀ b, x = .ok b → (f b).wp startContract Q (s, done))
    (herr : ∀ e, Q (.error e) (s, done)) :
    (Program.liftExcept x >>= f).wp startContract Q (s, done) := by
  cases x with
  | ok b => exact hok b rfl
  | error e => exact herr e

/-- The rule of storing a record. -/
lemma wp_storeVm {key : String} {vm : StoredVm}
    (h : (f ()).wp startContract Q (s.storeVm key vm, done)) :
    (request (.storeVm key vm) >>= f).wp startContract Q (s, done) := by
  refine wp_silent (fun _ => rfl) fun r t ht => ?_
  rw [show t = s.storeVm key vm from ht]
  exact h

end Rules

/-- The records and the channels of two states are the same. -/
def Framed (s t : HcsState) : Prop := t.service = s.service ∧ t.channels = s.channels

/-- Calls that keep the records and the channels and that are no action. -/
def Quiet : HcsCall → Prop
  | .storeVm _ _ | .grantVmAccess _ _ | .revokeVmAccess _ _ | .create _ _ | .start _
  | .terminate _ | .ensureChannel _ | .closeKey _ | .closeVm _ => False
  | _ => True

/-- A quiet call keeps the records and the channels. -/
lemma Quiet.framed {c : HcsCall} {r : c.Reply} (hc : Quiet c)
    (h : hcsSystem.answers s c r t) : Framed s t := by
  cases c with
  | metadata step =>
    subst h
    unfold HcsState.metadataStep
    split <;> exact ⟨rfl, rfl⟩
  | removeTemp =>
    subst h
    exact ⟨rfl, rfl⟩
  | loadVm key | loadImage key =>
    rw [h.2]
    exact ⟨rfl, rfl⟩
  | contextErr | closed | now | pause | openPath _ _ _ | revalidate _ | enumerate _ =>
    rw [show t = s from h]
    exact ⟨rfl, rfl⟩
  | storeVm _ _ | grantVmAccess _ _ | revokeVmAccess _ _ | create _ _ | start _ | terminate _
  | ensureChannel _ | closeKey _ | closeVm _ => exact hc.elim

lemma Quiet.clientOutcome_eq_none {c : HcsCall} (hc : Quiet c) (r : c.Reply) :
    clientOutcome c r = none := by
  cases c <;> first | rfl | exact hc.elim

variable {post : α → Prop} {p : HcsService α}

/-- A program of quiet calls keeps the records, the channels and the actions. -/
lemma wp_of_quiet (hp : p.Ensures Quiet post) :
    p.wp startContract (fun r σ => Framed s σ.1 ∧ σ.2 = done ∧ ∀ a, r = .ok a → post a)
      (s, done) := by
  refine wp_mono (hp.wp (fun σ => Framed s σ.1 ∧ σ.2 = done) (fun _ _ _ _ => trivial) ?_
    ⟨⟨rfl, rfl⟩, rfl⟩) fun r σ h => ⟨h.1.1, h.1.2, h.2⟩
  rintro ⟨s₁, _⟩ c r ⟨s₂, _⟩ ⟨hfram, rfl⟩ hc ⟨_, rfl, hans, rfl⟩
  obtain ⟨hsvc, hchs⟩ := hc.framed hans
  refine ⟨⟨hsvc.trans hfram.1, hchs.trans hfram.2⟩, ?_⟩
  simp [hc.clientOutcome_eq_none r]

lemma metadataStep_quiet (step : MetadataStep) (op : String) :
    (metadataStep step op).Ensures Quiet fun _ => True := by
  simp [metadataStep, request, Quiet]

lemma openPath_quiet (op : String) (root : PathRoot) (relative : String)
    (kind : PathKind) :
    (openPath op root relative kind).Ensures Quiet fun _ => True := by
  simp [openPath, request, Quiet]

/-- Persisting is quiet. -/
lemma persistLocked_quiet : persistLocked.Ensures Quiet fun _ => True := by
  have hcom : commitMetadata.Ensures Quiet fun _ => True := by
    simp [commitMetadata, metadataStep, request, Quiet]
  refine (metadataStep_quiet _ _).seq fun _ _ => ?_
  refine (openPath_quiet _ _ _ _).seq fun _ _ => ?_
  refine (metadataStep_quiet _ _).seq fun _ _ => ?_
  have hatt : commitMetadata.attempt.Ensures Quiet fun _ => True :=
    hcom.attempt fun _ => trivial
  refine hatt.seq fun res _ => ?_
  cases res with
  | ok => trivial
  | error error => exact ⟨trivial, fun _ => trivial⟩

lemma runtimeIdWithin_quiet (owner hcsId : String) (attempts : ℕ) :
    (runtimeIdWithin owner hcsId attempts).Ensures Quiet fun _ => True := by
  induction attempts with
  | zero => trivial
  | succ attempts ih =>
    refine ⟨trivial, fun systems => ?_⟩
    cases systems with
    | error failure => trivial
    | ok systems =>
      simp only [bind_eq, done_bind, Except.mapError_ok, liftExcept_ok]
      split
      · trivial
      · split
        · refine ⟨trivial, fun ended => ?_⟩
          cases ended with
          | some error => trivial
          | none => exact ih
        · exact ih

/-- The opening checks are quiet. -/
lemma begin_quiet (cfg : Config) (identity : RequestIdentity) :
    (begin cfg identity).Ensures Quiet fun _ => True := by
  refine ⟨trivial, fun ended => ?_⟩
  cases ended with
  | some error => trivial
  | none =>
    refine ⟨trivial, fun closed => ?_⟩
    simp [reject]

lemma guestChannelServiceError_quiet : guestChannelServiceError.Ensures Quiet fun _ => True := by
  refine ⟨trivial, fun ended => ?_⟩
  cases ended <;> trivial

/-- Opening the disk is quiet. -/
lemma openDisk_quiet (vm : StoredVm) : (openDisk vm).Ensures Quiet fun _ => True :=
  (openPath_quiet _ _ _ _).seq fun _ _ => by simp [reject]

/-- Opening the workspaces is quiet. -/
lemma openWorkspaces_quiet (workspaces : List StoredWorkspace) :
    (openWorkspaces workspaces).Ensures Quiet fun _ => True := by
  induction workspaces with
  | nil => trivial
  | cons workspace rest ih =>
    refine (openPath_quiet _ _ _ _).seq fun handle _ => ?_
    simpa [reject] using fun _ => ih

/-- The outcome of a quiet program, as a value. -/
lemma wp_attempt_of_quiet (hp : p.Ensures Quiet post) :
    p.attempt.wp startContract (fun r σ => (∃ x, r = .ok x) ∧ Framed s σ.1 ∧ σ.2 = done)
      (s, done) :=
  (wp_attempt _ _).2 (wp_mono (wp_of_quiet hp) fun r _ h => ⟨⟨r, rfl⟩, h.1, h.2.1⟩)

/-- Revalidating the handles does not fail: the failure is its result. -/
lemma revalidateAll_wp (handl : List ValidatedPath) :
    (revalidateAll handl).wp startContract
      (fun r σ => (∃ x, r = .ok x) ∧ σ.1 = s ∧ σ.2 = done) (s, done) := by
  induction handl with
  | nil => exact ⟨⟨none, rfl⟩, rfl, rfl⟩
  | cons handle rest ih =>
    refine wp_silent (fun _ => rfl) fun failure t ht => ?_
    obtain rfl : t = s := ht
    cases failure with
    | some failure => exact ⟨⟨some failure, rfl⟩, rfl, rfl⟩
    | none => exact ih

/-! ## The compensations -/

/-- The record is `vm` without a pending operation, and the channels are as before. -/
def Cleared (key : String) (vm : StoredVm) (s t : HcsState) : Prop :=
  t.service.vms.lookup key = some { vm with pendingOperation := none } ∧
    t.channels = s.channels

/-- Clearing is no action. -/
lemma clearPendingLocked_wp (key : String) (vm : StoredVm) :
    (clearPendingLocked key vm).wp startContract
      (fun r σ => r = .ok () ∧ Cleared key vm s σ.1 ∧ σ.2 = done) (s, done) := by
  refine wp_storeVm (wp_seq (wp_attempt_of_quiet persistLocked_quiet) ?_ ?_)
  · rintro _ t _ ⟨-, ⟨hsvc, hchs⟩, rfl⟩
    refine ⟨rfl, ⟨?_, hchs⟩, rfl⟩
    rw [hsvc, HcsState.storeVm_lookup]
  · rintro e t _ ⟨⟨x, hx⟩, -⟩
    cases hx

/-- An abandoned start terminates and revokes. -/
lemma abandonStart_wp (key : String) (vm : StoredVm) (disk : ValidatedPath) :
    (abandonStart key vm disk).wp startContract
      (fun r σ => r = .ok () ∧ Cleared key vm s σ.1 ∧ ∃ a b, σ.2 = done ++
        [(.terminate vm.hcsId, a), (.revokeVmAccess vm.hcsId disk.path, b)]) (s, done) := by
  refine wp_ignore fun terminated t ht => wp_ignore fun revoked u hu => ?_
  refine wp_mono (clearPendingLocked_wp key vm) ?_
  rintro r ⟨v, _⟩ ⟨hr, ⟨hrec, hchs⟩, rfl⟩
  refine ⟨hr, ⟨hrec, ?_⟩, terminated.isOk, revoked.isOk, by simp [clientOutcome]⟩
  rw [hchs, show u = t from hu, show t = s from ht]

/-- What is to be shown of the end of a run. -/
def Verdict (key : String) (vm : StoredVm) (s : HcsState) (r : Except ServiceError Vm)
    (σ : HcsState × List (ClientAction × Bool)) : Prop :=
  ∀ error, r = .error error → ∀ path, (.grantVmAccess vm.hcsId path, true) ∈ σ.2 →
    (LeavesNothing key vm path σ.2 s σ.1 ↔ StartsAndTerminates vm σ.2)

section

variable {key : String} {vm : StoredVm} {disk : ValidatedPath} {error : ServiceError}
  {s₀ : HcsState} {a b : Bool}

/-- The steps between the grant and a compensation, apart from a failed start. -/
def IsLaunchStep (vm : StoredVm) (o : ClientAction × Bool) : Prop :=
  (∃ ok, o = (.create vm.hcsId, ok)) ∨ o = (.start vm.hcsId, true) ∨
    ∃ channel connected, o = (.ensureChannel channel, connected)

variable {steps : List (ClientAction × Bool)}

/-- A compensation that terminates and revokes leaves nothing behind exactly when the termination
of a created compute system succeeds. -/
lemma verdict_of_compensated {r : Except ServiceError Vm}
    (hsteps : ∀ o ∈ steps, IsLaunchStep vm o) (hsta : vm.state ≠ .running)
    (hrec : t.service.vms.lookup key = some { vm with pendingOperation := none })
    (hclo : ∀ channel connected, (.ensureChannel channel, connected) ∈ steps →
      channel ∉ t.channels.entries)
    (hadded : ∀ channel ∈ t.channels.entries, channel.vmId = vm.id →
      channel ∈ s₀.channels.entries) :
    Verdict key vm s₀ r (t, (.grantVmAccess vm.hcsId disk.path, true) :: (steps ++
      [(.terminate vm.hcsId, a), (.revokeVmAccess vm.hcsId disk.path, b)])) := by
  intro error _ path hgrant
  have hno : ∀ o, ¬ IsLaunchStep vm o → o ∉ steps := fun o ho hmem => ho (hsteps o hmem)
  have hnoGr : (.grantVmAccess vm.hcsId path, true) ∉ steps := hno _ (by simp [IsLaunchStep])
  have hnoSt : (.start vm.hcsId, false) ∉ steps := hno _ (by simp [IsLaunchStep])
  have hnoT : ∀ ok, (.terminate vm.hcsId, ok) ∉ steps :=
    fun ok => hno _ (by simp [IsLaunchStep])
  obtain rfl : path = disk.path := by simpa [hnoGr] using hgrant
  constructor
  · intro h
    refine ⟨by simp [hnoSt], fun hcre => ?_⟩
    -- the only termination of the run is the one of the compensation
    obtain ⟨o, ho, rfl⟩ := h.terminated.exists_of_mem hcre rfl
    have ha : a = true := by simpa [hnoT] using ho
    simp [hnoT, ha]
  · rintro ⟨-, hterm⟩
    refine ⟨?_, ?_, ?_, hadded, _, hrec, hsta, rfl⟩
    · refine FollowedBy.append (l := _ :: steps) ?_ (by simp [FollowedBy])
      rintro o ho rfl
      have hcre : (.create vm.hcsId, true) ∈ steps := by simpa using ho
      have ha : a = true := by simpa [hnoT] using hterm (by simp [hcre])
      simp [ha]
    · refine FollowedBy.append (l := _ :: steps) ?_ (by simp [FollowedBy])
      simp
    · intro channel connected hmem
      exact hclo channel connected (by simpa using hmem)

/-- The end of a start that abandons what it created and has not asked for a channel. -/
lemma abandonStart_verdict (steps : List (ClientAction × Bool))
    (hsteps : ∀ o ∈ steps, IsLaunchStep vm o)
    (hnone : ∀ channel connected, (.ensureChannel channel, connected) ∉ steps)
    (hsta : vm.state ≠ .running) (hchs : s.channels = s₀.channels) :
    (abandonStart key vm disk >>= fun _ => Program.fail error).wp startContract
      (Verdict key vm s₀) (s, (.grantVmAccess vm.hcsId disk.path, true) :: steps) := by
  refine wp_seq (abandonStart_wp key vm disk) ?_ ?_
  · rintro _ t _ ⟨-, ⟨hrec, hkept⟩, a, b, rfl⟩
    refine verdict_of_compensated hsteps hsta hrec ?_ ?_
    · exact fun channel connected hmem => absurd hmem (hnone channel connected)
    · intro channel hin _
      rwa [hkept, hchs] at hin
  · rintro e t _ ⟨he, -⟩
    cases he

/-- The end of a start whose running record could not be stored. -/
lemma storeRunning_verdict {runtimeId : String}
    (hsteps : ∀ o ∈ steps, IsLaunchStep vm o) (hsta : vm.state ≠ .running)
    (hchan : ∀ channel connected, (.ensureChannel channel, connected) ∈ steps →
      channel.vmId = vm.id) :
    (storeRunning key vm disk runtimeId).wp startContract (Verdict key vm s₀)
      (s, (.grantVmAccess vm.hcsId disk.path, true) :: steps) := by
  refine wp_silent (fun _ => rfl) fun now t ht => wp_storeVm ?_
  refine wp_seq (wp_attempt_of_quiet persistLocked_quiet) ?_ ?_
  · rintro res u _ ⟨-, -, rfl⟩
    cases res with
    | ok => exact fun error herr => by cases herr
    | error error =>
      refine wp_storeVm (wp_silent (fun _ => rfl) fun _ v hv => ?_)
      refine wp_ignore fun terminated w hw => wp_ignore fun revoked x hx => ?_
      refine wp_seq (wp_attempt_of_quiet persistLocked_quiet) ?_ ?_
      · rintro _ y _ ⟨-, ⟨hsvc, hchs⟩, rfl⟩
        have hents : ∀ channel ∈ y.channels.entries, channel.vmId ≠ vm.id := by
          rw [hchs, show x = w from hx, show w = v from hw, show v = _ from hv]
          simp [GuestChannelPool.closeVm]
        have hrec : y.service.vms.lookup key = some { vm with pendingOperation := none } := by
          rw [hsvc, show x = w from hx, show w = v from hw, show v = _ from hv]
          exact HcsState.storeVm_lookup _ _ _
        have hverd : Verdict key vm s₀ (.error error) (y,
            (.grantVmAccess vm.hcsId disk.path, true) :: (steps ++
              [(.terminate vm.hcsId, terminated.isOk),
                (.revokeVmAccess vm.hcsId disk.path, revoked.isOk)])) :=
          verdict_of_compensated hsteps hsta hrec
            (fun channel connected hmem hin =>
              hents channel hin (hchan channel connected hmem))
            (fun channel hin hvm => absurd hvm (hents channel hin))
        simpa [clientOutcome] using hverd
      · rintro e y _ ⟨⟨_, he⟩, -⟩
        cases he
  · rintro e u _ ⟨⟨_, he⟩, -⟩
    cases he

/-- Asking for a channel registers at most that one. -/
lemma ensureChannel_entries {channel other : ChannelKey} {connected : Bool}
    (h : hcsSystem.answers s (.ensureChannel channel) connected t)
    (hin : other ∈ t.channels.entries) (hne : other ≠ channel) : other ∈ s.channels.entries := by
  change if s.channels.closed then _ else _ at h
  split at h
  · rwa [h.2] at hin
  · rw [show t = _ from h] at hin
    simp only [GuestChannelPool.entry] at hin
    split at hin
    · exact hin
    · exact (List.mem_cons.1 hin).resolve_left hne

/-- Connecting the guest channel either ends the start or adds one step to it. -/
lemma connectChannel_wp {cfg : Config} {runtimeId : String}
    (hsteps : ∀ o ∈ steps, IsLaunchStep vm o)
    (hnone : ∀ channel connected, (.ensureChannel channel, connected) ∉ steps)
    (hsta : vm.state ≠ .running) (hchs : s.channels = s₀.channels) :
    (connectChannel cfg key vm disk runtimeId).wp startContract
      (fun r σ => match r with
        | .error e => Verdict key vm s₀ (.error e) σ
        | .ok () => ∃ steps, σ.2 = (.grantVmAccess vm.hcsId disk.path, true) :: steps ∧
            (∀ o ∈ steps, IsLaunchStep vm o) ∧
            ∀ channel connected, (.ensureChannel channel, connected) ∈ steps →
              channel.vmId = vm.id)
      (s, (.grantVmAccess vm.hcsId disk.path, true) :: steps) := by
  have hadd : ∀ connected, ∀ o ∈ steps ++
      [(.ensureChannel ⟨vm.id, runtimeId, .control⟩, connected)], IsLaunchStep vm o := by
    intro connected o ho
    rcases List.mem_append.1 ho with ho | ho
    · exact hsteps o ho
    · exact .inr (.inr ⟨_, _, List.mem_singleton.1 ho⟩)
  unfold connectChannel
  split
  · refine wp_request fun connected t ht => ?_
    cases connected with
    | true =>
      refine ⟨_, rfl, hadd true, fun channel connected hmem => ?_⟩
      obtain ⟨rfl, -⟩ : channel = ⟨vm.id, runtimeId, .control⟩ ∧ connected = true := by
        simpa [hnone, clientOutcome] using hmem
      rfl
    | false =>
      refine wp_silent (fun _ => rfl) fun _ u hu => ?_
      have hents : ∀ channel, channel ∈ u.channels.entries ↔
          channel ∈ t.channels.entries ∧ channel ≠ ⟨vm.id, runtimeId, .control⟩ := by
        rw [show u = _ from hu]
        simp [GuestChannelPool.closeKey]
      refine wp_seq (abandonStart_wp key vm disk) ?_ ?_
      · rintro _ v _ ⟨-, ⟨hrec, hkept⟩, a, b, rfl⟩
        -- the text of the error does not matter
        have hverd : ∀ w r, Framed v w → Verdict key vm s₀ r (w,
            (.grantVmAccess vm.hcsId disk.path, true) :: ((steps ++
              [(.ensureChannel ⟨vm.id, runtimeId, .control⟩, false)]) ++
              [(.terminate vm.hcsId, a), (.revokeVmAccess vm.hcsId disk.path, b)])) := by
          rintro w r ⟨hsvc, hsame⟩
          refine verdict_of_compensated (hadd false) hsta (by rw [hsvc, hrec]) ?_ ?_
          · intro channel connected hmem hin
            obtain ⟨rfl, -⟩ : channel = ⟨vm.id, runtimeId, .control⟩ ∧ connected = false := by
              simpa [hnone] using hmem
            rw [hsame, hkept, hents] at hin
            exact hin.2 rfl
          · intro channel hin _
            rw [hsame, hkept, hents] at hin
            rw [← hchs]
            exact ensureChannel_entries ht hin.1 hin.2
        refine wp_seq (wp_of_quiet guestChannelServiceError_quiet) ?_ ?_
        all_goals
          rintro error w _ ⟨hfram, rfl, -⟩
          exact hverd w _ hfram
      · rintro e v _ ⟨he, -⟩
        cases he
  · exact ⟨steps, rfl, hsteps, fun channel connected hmem => absurd hmem (hnone _ _)⟩

/-- The end of a start whose compute system did not start: the grant is not revoked. -/
lemma failedStart_verdict :
    (ignore (.terminate vm.hcsId) >>= fun _ => clearPendingLocked key vm >>= fun _ =>
      Program.fail error).wp startContract (Verdict key vm s₀)
        (s, [(.grantVmAccess vm.hcsId disk.path, true), (.create vm.hcsId, true),
          (.start vm.hcsId, false)]) := by
  refine wp_ignore fun terminated t ht => wp_seq (clearPendingLocked_wp key vm) ?_ ?_
  · rintro _ u _ ⟨-, -, rfl⟩ error' _ path hgrant
    obtain rfl : path = disk.path := by simpa [clientOutcome] using hgrant
    constructor
    · intro h
      have hrev := h.revoked
      simp [FollowedBy, clientOutcome] at hrev
    · exact fun h => absurd h.1 (by simp)
  · rintro e u _ ⟨he, -⟩
    cases he

/-- The start of the compute system and what follows it. -/
lemma startSystem_verdict {cfg : Config} (hsta : vm.state ≠ .running)
    (hchs : s.channels = s₀.channels) :
    (startSystem cfg key vm disk).wp startContract (Verdict key vm s₀)
      (s, [(.grantVmAccess vm.hcsId disk.path, true), (.create vm.hcsId, true)]) := by
  refine wp_request fun started t ht => ?_
  obtain rfl : t = s := ht
  cases started with
  | error failure => exact failedStart_verdict
  | ok =>
    have hsteps : ∀ o ∈ [(.create vm.hcsId, true), (.start vm.hcsId, true)],
        IsLaunchStep vm o := by
      simp [IsLaunchStep]
    refine wp_seq (wp_attempt_of_quiet (runtimeIdWithin_quiet _ _ _)) ?_ ?_
    · rintro runtimeId u _ ⟨-, ⟨-, hu⟩, rfl⟩
      rw [← show u.channels = t.channels from hu] at hchs
      cases runtimeId with
      | error error =>
        exact abandonStart_verdict _ hsteps (by simp [clientOutcome]) hsta hchs
      | ok runtimeId =>
        refine wp_seq (connectChannel_wp hsteps (by simp [clientOutcome]) hsta hchs) ?_ ?_
        · rintro _ v _ ⟨steps, rfl, hsteps, hchan⟩
          exact storeRunning_verdict hsteps hsta hchan
        · exact fun e v done' h => h
    · rintro e u _ ⟨⟨_, he⟩, -⟩
      cases he

/-- Everything after the grant of the disk. -/
lemma launch_verdict {cfg : Config} {workspaces : List ValidatedPath}
    {document : HcsDocument} (hsta : vm.state ≠ .running) (hchs : s.channels = s₀.channels) :
    (launch cfg key vm disk workspaces document).wp startContract (Verdict key vm s₀)
      (s, [(.grantVmAccess vm.hcsId disk.path, true)]) := by
  refine wp_request fun created t ht => ?_
  obtain rfl : t = s := ht
  cases created with
  | error failure =>
    exact abandonStart_verdict [(.create vm.hcsId, false)] (by simp [IsLaunchStep]) (by simp)
      hsta hchs
  | ok =>
    refine wp_seq (revalidateAll_wp _) ?_ ?_
    · rintro failure u _ ⟨-, rfl, rfl⟩
      cases failure with
      | some failure =>
        exact abandonStart_verdict [(.create vm.hcsId, true)] (by simp [IsLaunchStep]) (by simp)
          hsta hchs
      | none => exact startSystem_verdict hsta hchs
    · rintro e u _ ⟨⟨_, he⟩, -⟩
      cases he

end

/-! ## The whole start -/

/-- A start that ends before the grant succeeded. -/
lemma verdict_of_no_grant {key : String} {vm : StoredVm} {s₀ : HcsState}
    {r : Except ServiceError Vm} (hgrant : ∀ path, (.grantVmAccess vm.hcsId path, true) ∉ done) :
    Verdict key vm s₀ r (t, done) :=
  fun _ _ path hin => absurd hin (hgrant path)

/-- The record that a start loads, and the checks it passed. -/
lemma startableVm_wp (cfg : Config) (vmId : String) :
    (startableVm cfg vmId).wp startContract
      (fun r σ => Framed s σ.1 ∧ σ.2 = done ∧ ∀ vm, r = .ok vm →
        s.service.vms.lookup vmId = some vm ∧ vm.state ≠ .running) (s, done) := by
  refine wp_silent (fun _ => rfl) fun loaded t ht => ?_
  obtain ⟨rfl, rfl⟩ := ht
  have herr : ∀ e : ServiceError, Framed t t ∧ done = done ∧ ∀ vm, Except.error e = .ok vm →
      t.service.vms.lookup vmId = some vm ∧ vm.state ≠ .running :=
    fun e => ⟨⟨rfl, rfl⟩, rfl, fun vm h => by cases h⟩
  refine wp_check (fun vm hvm => ?_) herr
  refine wp_check (fun _ _ => wp_check (fun _ hsta => ?_) herr) herr
  refine wp_silent (fun _ => rfl) fun image u hu => ?_
  obtain ⟨rfl, rfl⟩ := hu
  refine wp_check (fun _ _ => wp_check (fun _ _ => ?_) herr) herr
  refine ⟨⟨rfl, rfl⟩, rfl, fun vm' h => ?_⟩
  obtain rfl := Except.ok.inj h
  refine ⟨Except.okOr_eq_ok.1 hvm, fun hrun => ?_⟩
  simp [hrun] at hsta

/-- Marking the record and granting the disk either ends the start before a grant or grants. -/
lemma grantDisk_wp (key : String) (vm : StoredVm) (disk : ValidatedPath) :
    (grantDisk key vm disk).wp startContract
      (fun r σ => match r with
        | .error _ => ∀ path, (.grantVmAccess vm.hcsId path, true) ∉ σ.2
        | .ok () => σ.1.channels = s.channels ∧
            σ.2 = [(.grantVmAccess vm.hcsId disk.path, true)]) (s, []) := by
  refine wp_storeVm (wp_seq (wp_attempt_of_quiet persistLocked_quiet) ?_ ?_)
  · rintro res t _ ⟨-, ⟨-, hchs⟩, rfl⟩
    cases res with
    | error error => exact wp_storeVm (by simp)
    | ok =>
      refine wp_request fun granted u hu => ?_
      obtain rfl : u = t := hu
      cases granted with
      | error failure =>
        refine wp_seq (clearPendingLocked_wp key vm) ?_ ?_
        · simp [clientOutcome, Except.toBool]
        · rintro e v _ ⟨he, -⟩
          cases he
      | ok => exact ⟨hchs, rfl⟩
  · rintro e t _ ⟨⟨_, he⟩, -⟩
    cases he

/-- Every end of a start. -/
lemma startVm_verdict (cfg : Config) (input : StartVmRequest) {vm : StoredVm}
    (hvm : s.service.vms.lookup input.vmId = some vm) :
    (startVm cfg input).wp startContract (Verdict input.vmId vm s) (s, []) := by
  have hearly : ∀ (e : ServiceError) (t : HcsState), Verdict input.vmId vm s (.error e) (t, []) :=
    fun e t => verdict_of_no_grant (by simp)
  refine wp_seq (wp_of_quiet (begin_quiet _ _)) ?_ ?_
  · rintro _ t _ ⟨⟨hsvc, hchs⟩, rfl, -⟩
    refine wp_check (fun _ _ => ?_) fun e => hearly e t
    refine wp_seq (startableVm_wp _ _) ?_ ?_
    · rintro vm' u _ ⟨⟨-, hu⟩, rfl, hload⟩
      obtain ⟨hget, hsta⟩ := hload vm' rfl
      obtain rfl : vm' = vm := by
        rw [show t.service = s.service from hsvc, hvm] at hget
        exact (Option.some.inj hget).symm
      refine wp_seq (wp_of_quiet (openDisk_quiet _)) ?_ ?_
      · rintro disk v _ ⟨⟨-, hv⟩, rfl, -⟩
        refine wp_seq (wp_of_quiet (openWorkspaces_quiet _)) ?_ ?_
        · rintro workspaces w _ ⟨⟨-, hw⟩, rfl, -⟩
          refine wp_seq (grantDisk_wp _ _ _) ?_ ?_
          · rintro _ x _ ⟨hx, rfl⟩
            refine launch_verdict hsta ?_
            rw [hx, hw, hv, hu, hchs]
          · exact fun e x done' h => verdict_of_no_grant h
        · rintro e w _ ⟨-, rfl, -⟩
          exact hearly e w
      · rintro e v _ ⟨-, rfl, -⟩
        exact hearly e v
    · rintro e u _ ⟨-, rfl, -⟩
      exact hearly e u
  · rintro e t _ ⟨-, rfl, -⟩
    exact hearly e t

/-- The actions of a run are what following its events collects. -/
lemma foldl_outcomes (events : List (Event hcsInterface)) (done : List (ClientAction × Bool)) :
    events.foldl (fun done e => done ++ (clientOutcome e.1 e.2).toList) done =
      done ++ outcomes events := by
  induction events generalizing done with
  | nil => simp [outcomes]
  | cons e events ih =>
    rw [List.foldl_cons, ih]
    cases h : clientOutcome e.1 e.2 <;> simp [outcomes, h]

/-- A start that fails after the grant of the disk leaves nothing behind exactly when the compute
system did not fail to start and the termination of a created one did not fail. -/
theorem failed_start_leaves_nothing_iff (config : Config) (input : StartVmRequest)
    {events : List (Event hcsInterface)} {q : HcsService Vm} {vm : StoredVm} {path : String}
    {error : ServiceError} (hvm : s.service.vms.lookup input.vmId = some vm)
    (hrun : Progress hcsSystem Eq events (startVm config input) s q t)
    (herror : q.result? = some (.error error))
    (hgrant : (.grantVmAccess vm.hcsId path, true) ∈ outcomes events) :
    LeavesNothing input.vmId vm path (outcomes events) s t ↔
      StartsAndTerminates vm (outcomes events) := by
  have hend := hrun.wp_rely (startVm_verdict config input hvm)
  rw [foldl_outcomes] at hend
  cases q with
  | done a => cases herror
  | call c k => cases herror
  | fail e => exact hend e rfl path hgrant

/-! ## Two failed starts -/

namespace FailedStart

def image : StoredImage := ⟨"guest", "installed/guest/disk.vhdx", "aa", 4096, ⟨1, 1, 0⟩⟩

def vm : StoredVm where
  id := "work"
  hcsId := "work-system"
  imageId := "guest"
  vcpuCount := 2
  memoryMiB := 1024
  state := .created
  workspaces := []
  updatedAt := 1
  diskRelativePath := "vms/work/disk.vhdx"
  diskIdentity := ⟨1, 2, 0⟩
  runtimeId := ""
  pendingOperation := none
  deleting := false

def service : ServiceState :=
  ⟨(∅ : Table _ _).insert "guest" image, (∅ : Table _ _).insert "work" vm⟩

def state : HcsState := ⟨service, none, service, ⟨[], false⟩⟩

def config : Config :=
  ⟨"S-1-5-21", "owner", [.control], (∅ : Table _ _).insert "guest" ⟨"aa", 4096⟩⟩

def input : StartVmRequest := ⟨⟨"request", "S-1-5-21"⟩, "work"⟩

variable (fails : HcsCall → Bool)

/-- An environment in which every call succeeds except those that `fails` names. -/
def reply (s : HcsState) : (c : HcsCall) → c.Reply × HcsState
  | .contextErr => (none, s)
  | .closed => (false, s)
  | .now => (2, s)
  | .pause => (none, s)
  | .loadVm key => (s.service.vms.lookup key, s)
  | .loadImage key => (s.service.images.lookup key, s)
  | .storeVm key vm => ((), s.storeVm key vm)
  | .metadata step => (.ok (), s.metadataStep step (.ok ()))
  | .removeTemp => ((), { s with temporary := none })
  | .openPath _ relative _ => (.ok ⟨relative, vm.diskIdentity⟩, s)
  | .revalidate _ => (none, s)
  | .grantVmAccess hcsId path => (outcome (.grantVmAccess hcsId path), s)
  | .revokeVmAccess hcsId path => (outcome (.revokeVmAccess hcsId path), s)
  | .create hcsId document => (outcome (.create hcsId document), s)
  | .start hcsId => (outcome (.start hcsId), s)
  | .terminate hcsId => (outcome (.terminate hcsId), s)
  | .enumerate _ => (.ok [], s)
  | .ensureChannel key =>
      if s.channels.closed then (false, s) else (true, { s with channels := s.channels.entry key })
  | .closeKey key => ((), { s with channels := s.channels.closeKey key })
  | .closeVm vmId => ((), { s with channels := s.channels.closeVm vmId })
where
  outcome (c : HcsCall) : Except HcsFailure Unit :=
    if fails c then .error (.other "refused") else .ok ()

lemma reply_answers (s : HcsState) (c : HcsCall) :
    hcsSystem.answers s c (reply fails s c).1 (reply fails s c).2 := by
  cases c with
  | loadVm key => exact ⟨rfl, rfl⟩
  | loadImage key => exact ⟨rfl, rfl⟩
  | ensureChannel key =>
    change if s.channels.closed then _ else _
    simp only [reply]
    split <;> simp
  | _ => rfl

/-- The compute system cannot be created. -/
def createFails : HcsCall → Bool
  | .create _ _ => true
  | _ => false

/-- The compute system cannot be started. -/
def startFails : HcsCall → Bool
  | .start _ => true
  | _ => false

/-- The disk of the virtual machine, as the path validator resolves it. -/
def path : String := "vms/work/disk.vhdx"

/-- What a start does in such an environment. -/
def actions : List (ClientAction × Bool) :=
  outcomes ((startVm config input).runEvents (reply fails) state)

/-- The actions when `Start` fails. -/
lemma actions_startFails :
    actions startFails = [(.grantVmAccess "work-system" path, true),
      (.create "work-system", true), (.start "work-system", false),
      (.terminate "work-system", true)] := by
  decide +kernel

/-- A run that ends with an error, as progress of the program. -/
lemma exists_progress (herr : ((startVm config input).run (reply fails) state).1.isOk = false) :
    ∃ events q t error, outcomes events = actions fails ∧ q.result? = some (.error error) ∧
      Progress hcsSystem Eq events (startVm config input) state q t := by
  obtain ⟨q, hq, hrun⟩ := Progress.of_run (startVm config input) state (reply_answers fails)
  revert herr hq hrun
  generalize (startVm config input).run (reply fails) state = outcome
  rcases outcome with ⟨error | vm, t⟩
  · exact fun _ hq hrun => ⟨_, q, t, error, rfl, hq, hrun⟩
  · exact fun herr => by cases herr

/-- A start whose compute system cannot be created cleans up. -/
theorem create_failure_leaves_nothing :
    ∃ t, LeavesNothing input.vmId vm path (actions createFails) state t := by
  obtain ⟨events, q, t, error, hactions, herror, hrun⟩ :=
    exists_progress createFails (by decide +kernel)
  rw [← hactions]
  refine ⟨t, (failed_start_leaves_nothing_iff config input rfl hrun herror ?_).2 ?_⟩
  · rw [hactions]
    decide
  · rw [hactions]
    exact ⟨by decide, by decide⟩

/-- A start whose compute system cannot be started keeps the access to the disk. -/
theorem start_failure_keeps_grant :
    ∃ (events : List (Event hcsInterface)) (q : HcsService Vm) (t : HcsState)
      (error : ServiceError),
      state.service.vms.lookup input.vmId = some vm ∧
      Progress hcsSystem Eq events (startVm config input) state q t ∧
      q.result? = some (.error error) ∧
      (.grantVmAccess vm.hcsId path, true) ∈ outcomes events ∧
      ¬ LeavesNothing input.vmId vm path (outcomes events) state t := by
  obtain ⟨events, q, t, error, hactions, herror, hrun⟩ :=
    exists_progress startFails (by decide +kernel)
  rw [actions_startFails] at hactions
  refine ⟨events, q, t, error, rfl, hrun, herror, ?_, fun h => ?_⟩
  · rw [hactions]
    decide
  · have hrevoked := h.revoked
    rw [hactions] at hrevoked
    simp [FollowedBy, vm] at hrevoked

end FailedStart

end GrokDesktop.VmService
