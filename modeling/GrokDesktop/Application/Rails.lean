import GrokDesktop.Application.Dispatchable
import GrokDesktop.Lib.Rely

/-!
# The rail of a reserved turn

`prepare_start` reads the default chat rail three times: for the preflight that loads the
credential, for the fingerprint of the command, and for the lineage of the turn it reserves. The
rail can be changed between the readings. `RailNotes` follows the readings, the loaded credentials
and the committed reservations of one preparation, so that what a turn records can be compared with
them.
-/

namespace GrokDesktop

open Except
open Resumption Resumption.Program Service

/-! ## Following a preparation -/

/-- What a preparation has read and committed. -/
structure RailNotes where
  rails : List ChatRail := []
  credentials : List (ChatRail × String) := []
  reservations : List ConversationTurnReservation := []

def RailNotes.follow (notes : RailNotes) : (c : ConversationCall) → c.Reply → RailNotes
  | .currentRail, rail => { notes with rails := notes.rails ++ [rail] }
  | .loadCredential rail, .ok binding =>
      { notes with credentials := notes.credentials ++ [(rail, binding)] }
  | .reserveTurn _, .ok reservation =>
      if reservation.created then
        { notes with reservations := notes.reservations ++ [reservation] }
      else notes
  | _, _ => notes

/-- The calls that are not noted. -/
def IsUnnoted : ConversationCall → Prop
  | .currentRail | .loadCredential _ | .reserveTurn _ => False
  | _ => True

def IsBeforePreflight : ConversationCall → Prop
  | .loadCredential _ | .reserveTurn _ => False
  | _ => True

section Rails

variable {α β : Type} {post : α → Prop} {s : State} {notes : RailNotes}
  {Q : Except ApplicationError β → State × RailNotes → Prop} {input : StartConversationTurn}
  {key model : String}

variable [UrlLibrary]

/-- The contract of a preparation whose rail readings are noted: the store answers its calls, the
surroundings answer the others in any way, and other tasks write anything in between. -/
def railContract : Contract conversationInterface (State × RailNotes) :=
  relyContract conversationSystem (Writes Set.univ) RailNotes.follow fun _ => True

variable {f : α → Service β} {p : Service α}

/-- The rule for a program that makes no noted call. -/
lemma wp_unnoted_bind (hQ : ∀ e s, Q (.error e) (s, notes)) (hp : p.Ensures IsUnnoted post)
    (hf : ∀ a s, post a → (f a).wp railContract Q (s, notes)) :
    (p.bind f).wp railContract Q (s, notes) := by
  rw [wp_bind]
  refine wp_mono (hp.wp (fun σ => σ.2 = notes) (fun _ _ _ _ => trivial) ?_ rfl) ?_
  · rintro σ c r σ' hσ hc ⟨_, -, -, hfol⟩
    rw [hfol, hσ]
    cases c <;> first | exact hc.elim | rfl
  · rintro (error | a) ⟨s, _⟩ ⟨rfl, hpost⟩
    · exact hQ error s
    · exact hf a s (hpost a rfl)

lemma wp_unnoted (hQ : ∀ e s, Q (.error e) (s, notes))
    (hf : ∀ a s, (f a).wp railContract Q (s, notes))
    (hp : p.Ensures IsUnnoted fun _ => True := by simp [IsUnnoted]) :
    (p.bind f).wp railContract Q (s, notes) :=
  wp_unnoted_bind hQ hp fun a s _ => hf a s

/-- The rule for a check. -/
lemma wp_check_bind {ε : Type} {ofError : ε → ApplicationError} {result : Except ε α}
    (hQ : ∀ e s, Q (.error e) (s, notes))
    (hf : ∀ a s, result = .ok a → (f a).wp railContract Q (s, notes)) :
    ((check ofError result).bind f).wp railContract Q (s, notes) :=
  wp_unnoted_bind hQ ((ensures_check _ _).2 fun _ h => h) hf

/-- The rule for a program before the preflight. -/
lemma wp_beforePreflight_bind
    (hQ : ∀ e s rails, Q (.error e) (s, { rails := rails })) (hp : p.Ensures IsBeforePreflight post)
    (hf : ∀ a s rails, post a → (f a).wp railContract Q (s, { rails := rails })) :
    (p.bind f).wp railContract Q (s, {}) := by
  rw [wp_bind]
  refine wp_mono (hp.wp (fun σ => ∃ rails, σ.2 = { rails := rails }) (fun _ _ _ _ => trivial) ?_
    ⟨[], rfl⟩) ?_
  · rintro σ c r σ' ⟨rails, hσ⟩ hc ⟨_, -, -, hfol⟩
    rw [hfol, hσ]
    cases c <;> first | exact hc.elim | exact ⟨_, rfl⟩
  · rintro (error | a) ⟨s, _⟩ ⟨⟨rails, rfl⟩, hpost⟩
    · exact hQ error s rails
    · exact hf a s rails (hpost a rfl)

/-- The rule for a reading of the default rail. -/
lemma wp_currentRail_bind {f : ChatRail → Service β}
    (hf : ∀ rail s, (f rail).wp railContract Q (s, { notes with rails := notes.rails ++ [rail] })) :
    ((request .currentRail).bind f).wp railContract Q (s, notes) := by
  refine ⟨trivial, ?_⟩
  rintro rail ⟨s', _⟩ ⟨_, -, -, hfol⟩
  obtain rfl := hfol
  exact hf rail s'

lemma wp_preflightModel_bind {rail : ChatRail} {model : String} {canonical : Bool}
    {expected : Option String} {f : String × String → Service β}
    (hQ : ∀ e s notes', notes'.reservations = notes.reservations → Q (.error e) (s, notes'))
    (hf : ∀ binding model s, (f (binding, model)).wp railContract Q
      (s, { notes with credentials := notes.credentials ++ [(rail, binding)] })) :
    ((preflightModel rail model canonical expected).bind f).wp railContract Q (s, notes) := by
  simp only [preflightModel, bind_eq, bind_assoc]
  refine ⟨trivial, ?_⟩
  rintro reply ⟨s', _⟩ ⟨_, -, -, hfol⟩
  obtain rfl := hfol
  cases reply with
  | error e => exact hQ _ _ _ rfl
  | ok binding =>
    have hbind : Ensures IsUnnoted (· = binding)
        (check id (.ok binding : Except ApplicationError String)) := by
      simp
    simp only [done_bind]
    refine wp_unnoted_bind (hQ · · _ rfl) hbind ?_
    rintro _ s rfl
    refine wp_unnoted (hQ · · _ rfl) fun _ s => ?_
    refine wp_unnoted (hQ · · _ rfl) fun reply s => ?_
    refine wp_unnoted (hQ · · _ rfl) fun model s => ?_
    refine wp_unnoted (hQ · · _ rfl) fun _ s => ?_
    exact hf _ model s

section Rules

variable (hQ : ∀ e s notes', notes'.reservations = notes.reservations → Q (.error e) (s, notes'))

include hQ

/-- The rule for the preflight of a start: it reads the rail and loads the credential of it. -/
lemma wp_preflightStartModel_bind {input : StartConversationTurn} {threadId : ThreadId}
    {f : String × String → Service β}
    (hf : ∀ rail binding model s, (f (binding, model)).wp railContract Q
      (s, { notes with
        rails := notes.rails ++ [rail]
        credentials := notes.credentials ++ [(rail, binding)] })) :
    ((preflightStartModel input threadId).bind f).wp railContract Q (s, notes) := by
  have hreq : ∀ binding, Ensures IsUnnoted (fun _ => True)
      (requestedStartModel input binding) := by
    intro binding
    cases binding <;> simp [requestedStartModel, IsUnnoted]
  simp only [preflightStartModel, bind_eq, bind_assoc]
  refine wp_unnoted_bind (hQ · · _ rfl) (expectedStartCredentialBinding_ensures trivial)
    fun expected s _ => ?_
  refine wp_unnoted (hQ · · _ rfl) fun reply s => ?_
  refine wp_unnoted (hQ · · _ rfl) fun binding s => ?_
  refine wp_unnoted_bind (hQ · · _ rfl) (hreq binding) fun requested s _ => ?_
  refine wp_currentRail_bind fun rail s => ?_
  refine wp_preflightModel_bind (hQ · · · ·) fun cred model s => ?_
  refine wp_unnoted (hQ · · _ rfl) fun _ s => ?_
  exact hf rail cred model s

/-- The rule for the reservation of a start: its lineage has the rail that is read last. -/
lemma wp_buildStartReservation_bind {threadId : ThreadId} {thread : Thread} {binding : String}
    {cmd : MutationCommand} {f : TurnReservationInput → Service β}
    (hf : ∀ rail reservation s, reservation.lineage.rail = rail →
      reservation.lineage.credentialBindingId = some binding →
      reservation.turn.requestFingerprint = cmd.fingerprint →
      reservation.turn.modelId = model →
      (f reservation).wp railContract Q (s, { notes with rails := notes.rails ++ [rail] })) :
    ((buildStartReservation input key threadId thread binding model cmd).bind f).wp
      railContract Q (s, notes) := by
  simp only [buildStartReservation, bind_eq, bind_assoc]
  refine wp_unnoted (hQ · · _ rfl) fun now s => ?_
  refine wp_unnoted (hQ · · _ rfl) fun messageId s => ?_
  generalize Message.new messageId threadId .user input.content now = created
  refine wp_unnoted (hQ · · _ rfl) fun msg s => ?_
  refine wp_unnoted (hQ · · _ rfl) fun runId s => ?_
  refine wp_unnoted (hQ · · _ rfl) fun turnId s => ?_
  refine wp_check_bind (hQ · · _ rfl) fun turn s hturn => ?_
  refine wp_currentRail_bind fun rail s => ?_
  refine wp_check_bind (hQ · · _ rfl) fun lineage s hlineage => ?_
  simp only [ConversationTurn.reserve, ConversationTurnLineage.originalOn,
    ConversationTurnLineage.fresh, bind_eq_ok, return_eq_ok] at hturn hlineage
  obtain ⟨_, -, _, -, rfl⟩ := hturn
  obtain ⟨_, -, rfl⟩ := hlineage
  exact hf rail _ s rfl rfl rfl rfl

end Rules

section Commands

variable [Sha256Library]

def startFingerprint (input : StartConversationTurn) (model : String) (rail : ChatRail) : Digest :=
  Sha256Library.digest <| (conversationCommandScope ::
    ([input.threadId, model, input.content,
      if input.searchEnabled then "tools:official_search" else "tools:none",
      "provider_store:false"] ++
      if rail = ChatRail.superGrokApi then ["rail:supergrok_api"] else [])).flatMap
    fun part => hashPart (utf8Bytes part)

/-- The rule for the command of a start: it reads the rail that its fingerprint names. -/
lemma wp_startCommand_bind {f : MutationCommand → Service β}
    (hQ : ∀ e s notes', notes'.reservations = notes.reservations → Q (.error e) (s, notes'))
    (hf : ∀ rail cmd s, cmd.fingerprint = startFingerprint input model rail →
      (f cmd).wp railContract Q (s, { notes with rails := notes.rails ++ [rail] })) :
    ((startCommand input key model).bind f).wp railContract Q (s, notes) := by
  simp only [startCommand, bind_eq, bind_assoc]
  refine wp_currentRail_bind fun rail s => ?_
  refine wp_check_bind (hQ · · _ rfl) fun cmd s hcmd => ?_
  simp only [mutationCommand, bind_eq_ok, return_eq_ok] at hcmd
  obtain ⟨_, -, rfl⟩ := hcmd
  exact hf rail _ s rfl

/-! ## The rail of a committed turn -/

/-- The two rails give the command of a start different fingerprints. -/
def RailsDistinguished (input : StartConversationTurn) (model : String) : Prop :=
  startFingerprint input model .xaiApiKey ≠ startFingerprint input model .superGrokApi

/-- The rail, the credential and the command fingerprint of a reserved turn belong together. -/
def RailBelongs (input : StartConversationTurn) (notes : RailNotes)
    (reservation : ConversationTurnReservation) : Prop :=
  let lineage := reservation.snapshot.lineage
  let turn := reservation.snapshot.turn
  (∃ binding, lineage.credentialBindingId = some binding ∧
    notes.credentials = [(lineage.rail, binding)]) ∧
  turn.requestFingerprint = startFingerprint input turn.modelId lineage.rail

/-- The last three readings of the default rail gave the same rail. -/
def RailUnchanged (notes : RailNotes) : Prop :=
  ∃ before rail, notes.rails = before ++ [rail, rail, rail]

omit [UrlLibrary] in
lemma startFingerprint_inj {a b : ChatRail} (h : RailsDistinguished input model) :
    startFingerprint input model a = startFingerprint input model b ↔ a = b := by
  unfold RailsDistinguished at h
  cases a <;> cases b <;> simp [h, h.symm]

/-- What a start writes down while it is being followed, just before it reserves its turn: the
preflight, the command and the lineage each read the rail. -/
structure RailReadings (input : StartConversationTurn) (notes : RailNotes)
    (reservation : TurnReservationInput) where
  before : List ChatRail
  preflight : ChatRail
  command : ChatRail
  rails_eq : notes.rails = before ++ [preflight, command, reservation.lineage.rail]
  binding : String
  credentials_eq : notes.credentials = [(preflight, binding)]
  binding_eq : reservation.lineage.credentialBindingId = some binding
  fingerprint_eq : reservation.turn.requestFingerprint
    = startFingerprint input reservation.turn.modelId command

variable {reservation : TurnReservationInput}

omit [UrlLibrary] in
/-- The three readings decide whether the records of the turn belong together. -/
lemma RailReadings.belongs_iff {notes : RailNotes}
    (h : RailReadings input notes reservation) {committed : ConversationTurnReservation}
    (hturn : committed.snapshot.turn = reservation.turn)
    (hlin : committed.snapshot.lineage = reservation.lineage)
    (hrails : RailsDistinguished input committed.snapshot.turn.modelId) :
    RailBelongs input notes committed ↔ RailUnchanged notes := by
  unfold RailBelongs RailUnchanged
  rw [hturn] at hrails
  simp only [hturn, hlin, h.binding_eq, h.credentials_eq, h.fingerprint_eq, h.rails_eq,
    startFingerprint_inj hrails]
  constructor
  · rintro ⟨⟨binding, -, hcred⟩, hcmd⟩
    have hpref : h.preflight = reservation.lineage.rail :=
      (Prod.mk.inj (List.cons.inj hcred).1).1
    exact ⟨h.before, reservation.lineage.rail, by rw [hcmd, hpref]⟩
  · rintro ⟨before, rail, heq⟩
    obtain ⟨-, htail⟩ := List.append_inj' heq rfl
    simp only [List.cons.injEq, and_true] at htail
    obtain ⟨hpref, hcmd, hrail⟩ := htail
    exact ⟨⟨h.binding, rfl, by rw [hpref, hrail]⟩, by rw [hcmd, hrail]⟩

/-- What is known of the reservations a start has committed. -/
def ReservationsFollowRail (input : StartConversationTurn) (notes : RailNotes) : Prop :=
  ∀ reservation ∈ notes.reservations,
    RailsDistinguished input reservation.snapshot.turn.modelId →
      (RailBelongs input notes reservation ↔ RailUnchanged notes)

omit [UrlLibrary] in
lemma ReservationsFollowRail.of_nil {notes : RailNotes} (h : notes.reservations = []) :
    ReservationsFollowRail input notes := by
  intro reservation hresv
  rw [h] at hresv
  cases hresv

/-- The commit of a turn whose readings were followed. -/
lemma wp_reserveDispatch_rails
    (hread : RailReadings input notes reservation) (hnone : notes.reservations = []) :
    (reserveDispatch model reservation).wp railContract
      (fun _ σ => ReservationsFollowRail input σ.2) (s, notes) := by
  simp only [reserveDispatch, bind_eq]
  refine ⟨trivial, ?_⟩
  rintro reply ⟨s', _⟩ ⟨before, -, hans, hfol⟩
  obtain rfl := hfol
  have hdone : ReservationsFollowRail input
      (notes.follow (.reserveTurn reservation) reply) := by
    cases reply with
    | error e => exact .of_nil hnone
    | ok committed =>
      by_cases hcre : committed.created = true
      · obtain ⟨_, -, -, hturn, hlin, -⟩ := reserveTurn_created hans hcre
        intro reserved hres hrails
        simp only [RailNotes.follow, if_pos hcre, hnone, List.nil_append,
          List.mem_singleton] at hres
        obtain rfl := hres
        have hnotes := hread.belongs_iff hturn hlin hrails
        simpa only [RailNotes.follow, if_pos hcre, RailBelongs, RailUnchanged] using hnotes
      · refine .of_nil ?_
        simpa only [RailNotes.follow, if_neg hcre] using hnone
  simp only [done_bind]
  refine wp_unnoted (fun _ _ => hdone) fun committed s => ?_
  cases hplan : dispatchReservation model committed with
  | error e => exact hdone
  | ok started => exact hdone

omit [UrlLibrary] in
/-- The calls of a replay, before the first credential is loaded. -/
lemma replayStart_beforePreflight (input : StartConversationTurn) (key : String) :
    Ensures IsBeforePreflight (fun _ => True) (replayStart input key) := by
  simp only [replayStart, bind_eq, request_eq, call_bind, done_bind, ensures_bind, ensures_check,
    ensures_call, ensures_fromStore]
  rintro threadId -
  refine ⟨trivial, fun _ binding _ => ?_⟩
  cases binding <;> simp [startCommand, IsBeforePreflight]

/-- The rail, the credential and the command fingerprint of every turn that `prepare_start` commits
belong together exactly when its three readings of the default rail agree, whatever other tasks do
to the rail and the store in between. -/
theorem reserved_rail_belongs_iff (input : StartConversationTurn) (key : String) (s : State) :
    (prepareStart input key).wp railContract
      (fun _ σ => ∀ reservation ∈ σ.2.reservations,
        RailsDistinguished input reservation.snapshot.turn.modelId →
          (RailBelongs input σ.2 reservation ↔ RailUnchanged σ.2)) (s, {}) := by
  change (prepareStart input key).wp railContract
    (fun _ σ => ReservationsFollowRail input σ.2) (s, {})
  have hfail : ∀ (e : ApplicationError) (s : State) (notes : RailNotes), notes.reservations = [] →
      ReservationsFollowRail input notes := fun _ _ _ h => .of_nil h
  have hwritable : ∀ threadId, Ensures IsUnnoted (fun _ => True) (writableThread threadId) := by
    intro threadId
    simp [writableThread, IsUnnoted]
  unfold prepareStart
  refine wp_beforePreflight_bind (fun e s rails => hfail e s _ rfl)
    (replayStart_beforePreflight input key) fun replayed s rails _ => ?_
  cases finishedTurn replayed with
  | some started => exact .of_nil rfl
  | none =>
    refine wp_unnoted (hfail · · _ rfl) fun threadId s => ?_
    refine wp_unnoted_bind (hfail · · _ rfl) (hwritable threadId) fun thread s _ => ?_
    refine wp_preflightStartModel_bind (hfail · ·)
      fun preflight binding model s => ?_
    refine wp_startCommand_bind (hfail · ·) fun commandRail cmd s hcmd => ?_
    refine wp_unnoted (hfail · · _ rfl) fun reply s => ?_
    refine wp_unnoted (hfail · · _ rfl) fun existing s => ?_
    cases finishedTurn existing with
    | some started => exact .of_nil rfl
    | none =>
      refine wp_buildStartReservation_bind (hfail · ·)
        fun rail reservation s hrail hbind hfp hmodel => ?_
      refine wp_reserveDispatch_rails
        { before := rails
          preflight := preflight
          command := commandRail
          rails_eq := ?_
          binding := binding
          credentials_eq := rfl
          binding_eq := hbind
          fingerprint_eq := ?_ } rfl
      · simp [hrail]
      · rw [hfp, hcmd, hmodel]

end Commands

end Rails

/-! ## A rail that changes during a start -/

namespace ChangedRail

open SampleRun

attribute [local instance] url sha

/-- A project and an empty thread are created. -/
def operations : List StoreOperation :=
  [.createProject project ⟨"create_project", "project-key", 0⟩,
    .createThread thread ⟨"create_thread", "thread-key", 0⟩]

def start : StartConversationTurn := ⟨"thread", "hello", none, false⟩

/-- The answers of the store and its surroundings. The default rail is changed after its first
reading. -/
def changedReply (σ : State × RailNotes) (c : ConversationCall) : c.Reply × (State × RailNotes) :=
  match c with
  | .currentRail =>
      let rail := if σ.2.rails = [] then .xaiApiKey else .superGrokApi
      (rail, σ.1, σ.2.follow .currentRail rail)
  | c => ((reply σ.1 c).1, (reply σ.1 c).2, σ.2.follow c (reply σ.1 c).1)

lemma next_changedReply (σ : State × RailNotes) (c : ConversationCall) :
    railContract.next σ c (changedReply σ c).1 (changedReply σ c).2 := by
  refine ⟨σ.1, .refl, ?_, ?_⟩
  · cases c
    case currentRail => rfl
    all_goals exact answers_reply σ.1 _
  · cases c <;> rfl

def notes : RailNotes :=
  ((prepareStart start "start-key").run changedReply (State.empty.run operations, {})).2.2

/-- The credential is loaded from the first rail, and the turn records the second. -/
lemma notes_rails : notes.credentials = [(.xaiApiKey, "credential")] ∧
    notes.reservations.map (fun reservation => reservation.snapshot.lineage.rail)
      = [.superGrokApi] := by
  decide +kernel

/-- The rail is changed after the preflight: the turn that is committed records the new rail and the
credential of the old one. -/
theorem reserved_rail_mixed : ¬ ∀ (_ : UrlLibrary) (_ : Sha256Library)
    (operations : List StoreOperation) (input : StartConversationTurn) (key : String),
    (prepareStart input key).wp railContract
      (fun _ σ => ∀ reservation ∈ σ.2.reservations, RailBelongs input σ.2 reservation)
      (State.empty.run operations, {}) := by
  intro hall
  have hbelongs := Program.wp_run next_changedReply (hall url sha operations start "start-key")
  rw [← notes] at hbelongs
  obtain ⟨hcredentials, hreserved⟩ := notes_rails
  obtain ⟨reservation, hreservation, hrail⟩ :
      ∃ reservation ∈ notes.reservations, reservation.snapshot.lineage.rail = .superGrokApi := by
    simpa using (congrArg (ChatRail.superGrokApi ∈ ·) hreserved)
  obtain ⟨⟨binding, -, hload⟩, -⟩ := hbelongs reservation hreservation
  have hmixed : [(ChatRail.xaiApiKey, "credential")] = [(.superGrokApi, binding)] := by
    rw [← hcredentials, ← hrail]
    exact hload
  cases hmixed

end ChangedRail

end GrokDesktop
