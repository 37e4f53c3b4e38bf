import Oppen.Mcp.Listener

/-! # The drain

A tracker is registered before the flags are read, so nothing slips between the last look at
the channel and the end of serving. What is asked for after a stop is refused, and so is what
a revoked pairing asks for.
-/

namespace Oppen.Mcp

open Foundation Oppen.Json Oppen.Guardrail Oppen.Ledger

/-! ## Borrowing -/

/-- Ids are fresh, an admission borrows a live tracker whose pairing the store accepts, and
nobody reads the store while it is written. -/
structure Listener.Sound (listener : Listener) : Prop where
  ids : (listener.registrations.map Registration.id).Nodup
  fresh : ∀ registration ∈ listener.registrations, registration.id < listener.next
  entered : ∀ call ∈ listener.entered, call < listener.next
  asked : ∀ admission ∈ listener.admissions,
    admission.id < listener.next ∧ ∀ final ∈ admission.final, final < listener.next
  borrowed : ∀ admission ∈ listener.admissions,
    ⟨admission.tracker, .tracker admission.owner⟩ ∈ listener.registrations
  accepted : ∀ admission ∈ listener.admissions, ∃ authority,
    admission.owner.authority = some authority ∧ listener.Accepts authority
  unread : listener.lock = .writing → listener.admissions = []
  ended : listener.phase = .ending ∨ listener.phase = .drained → listener.shutdown = true

section Operations

variable {listener : Listener}

/-- Registering adds one registration, for its holder. -/
theorem Listener.mem_register {holder : Holder} {registration : Registration} :
    registration ∈ (listener.register holder).registrations ↔
      registration ∈ listener.registrations ∨ registration = ⟨listener.next, holder⟩ := by
  rw [register, List.mem_append, List.mem_singleton]

/-- A registration that changes hands is the same one with another holder. -/
theorem Listener.mem_hold {id : Nat} {holder : Holder} {registration : Registration}
    (member : registration ∈ (listener.hold id holder).registrations) :
    registration ∈ listener.registrations ∨ registration = ⟨id, holder⟩ := by
  obtain ⟨before, inside, rfl⟩ := List.mem_map.mp member
  split
  · exact .inr rfl
  · exact .inl inside

/-- The admissions after one has advanced are the others and the one it became. -/
theorem Listener.mem_advance {admission next other : SigningAdmission}
    (member : other ∈ (listener.advance admission next).admissions) :
    other ∈ listener.admissions ∨ other = next := by
  obtain ⟨before, inside, rfl⟩ := List.mem_map.mp member
  split
  · exact .inr rfl
  · exact .inl inside

/-- Registering keeps the listener sound: no admission borrows the new registration. -/
theorem Listener.Sound.register (sound : listener.Sound) (holder : Holder) :
    (listener.register holder).Sound where
  ids := by
    rw [Listener.register, List.map_append]
    refine List.nodup_append.mpr ⟨sound.ids, List.nodup_singleton _, ?_⟩
    intro id member other last same
    obtain ⟨registration, inside, rfl⟩ := List.mem_map.mp member
    obtain rfl := List.mem_singleton.mp last
    exact absurd same (sound.fresh registration inside).ne
  fresh registration member := by
    rcases Listener.mem_register.mp member with older | rfl
    · exact (sound.fresh registration older).trans (Nat.lt_succ_self _)
    · exact Nat.lt_succ_self _
  entered call member := (sound.entered call member).trans (Nat.lt_succ_self _)
  asked admission member :=
    ⟨(sound.asked admission member).1.trans (Nat.lt_succ_self _), fun final held =>
      ((sound.asked admission member).2 final held).trans (Nat.lt_succ_self _)⟩
  borrowed admission member := Listener.mem_register.mpr (.inl (sound.borrowed admission member))
  accepted := sound.accepted
  unread := sound.unread
  ended := sound.ended

/-- A holder is what it is. -/
theorem Listener.Sound.unique (sound : listener.Sound) {id : Nat} {first second : Holder}
    (here : ⟨id, first⟩ ∈ listener.registrations) (there : ⟨id, second⟩ ∈ listener.registrations) :
    first = second :=
  congrArg Registration.holder (List.inj_on_of_nodup_map sound.ids here there rfl)

/-- A registration that changes hands keeps the listener sound, unless a tracker held it. -/
theorem Listener.Sound.hold (sound : listener.Sound) {id : Nat} {before after : Holder}
    (here : ⟨id, before⟩ ∈ listener.registrations) (plain : ∀ owner, before ≠ .tracker owner) :
    (listener.hold id after).Sound where
  ids := by
    have same : (listener.hold id after).registrations.map Registration.id =
        listener.registrations.map Registration.id := by
      rw [Listener.hold, List.map_map]
      refine List.map_congr_left fun registration _ => ?_
      rw [Function.comp_apply]
      split
      · rename_i known
        exact known.symm
      · rfl
    rw [same]
    exact sound.ids
  fresh registration member := by
    rcases Listener.mem_hold member with older | rfl
    · exact sound.fresh registration older
    · exact sound.fresh ⟨id, before⟩ here
  entered := sound.entered
  asked := sound.asked
  borrowed admission member := by
    have inside := sound.borrowed admission member
    refine List.mem_map.mpr ⟨_, inside, if_neg ?_⟩
    rintro rfl
    exact plain _ (sound.unique here inside)
  accepted := sound.accepted
  unread := sound.unread
  ended := sound.ended

/-- Dropping a registration that no admission borrows keeps the listener sound. -/
theorem Listener.Sound.dropped (sound : listener.Sound) {registration : Registration}
    (unborrowed : ∀ admission ∈ listener.admissions, admission.tracker ≠ registration.id) :
    (listener.dropped registration).Sound where
  ids := sound.ids.sublist (List.erase_sublist.map _)
  fresh other member := sound.fresh other (List.mem_of_mem_erase member)
  entered := sound.entered
  asked := sound.asked
  borrowed admission member := by
    refine (List.mem_erase_of_ne ?_).mpr (sound.borrowed admission member)
    rintro rfl
    exact unborrowed admission member rfl
  accepted := sound.accepted
  unread := sound.unread
  ended := sound.ended

/-- An admission that advances keeps the listener sound, where it keeps its tracker and its
owner. -/
theorem Listener.Sound.advance (sound : listener.Sound) {admission next : SigningAdmission}
    (here : admission ∈ listener.admissions) (id : next.id = admission.id)
    (tracker : next.tracker = admission.tracker) (owner : next.owner = admission.owner)
    (final : ∀ last ∈ next.final, last < listener.next) :
    (listener.advance admission next).Sound where
  ids := sound.ids
  fresh := sound.fresh
  entered := sound.entered
  asked other member := by
    rcases Listener.mem_advance member with older | rfl
    · exact sound.asked other older
    · exact ⟨id ▸ (sound.asked admission here).1, final⟩
  borrowed other member := by
    rcases Listener.mem_advance member with older | rfl
    · exact sound.borrowed other older
    · rw [tracker, owner]
      exact sound.borrowed admission here
  accepted other member := by
    rcases Listener.mem_advance member with older | rfl
    · exact sound.accepted other older
    · rw [owner]
      exact sound.accepted admission here
  unread writing := absurd here (by rw [sound.unread writing]; exact List.not_mem_nil)
  ended := sound.ended

/-- An admission that lets go of its registration keeps the listener sound. -/
theorem Listener.Sound.letGo (sound : listener.Sound) (admission : SigningAdmission) :
    ({ listener with admissions := listener.admissions.erase admission } : Listener).Sound where
  ids := sound.ids
  fresh := sound.fresh
  entered := sound.entered
  asked other member := sound.asked other (List.mem_of_mem_erase member)
  borrowed other member := sound.borrowed other (List.mem_of_mem_erase member)
  accepted other member := sound.accepted other (List.mem_of_mem_erase member)
  unread writing := by
    change listener.admissions.erase admission = []
    rw [sound.unread writing, List.erase_nil]
  ended := sound.ended

/-- Every field the borrowing rests on is the same. -/
theorem Listener.Sound.framed (sound : listener.Sound) {after : Listener}
    (registrations : after.registrations = listener.registrations)
    (admissions : after.admissions = listener.admissions) (next : after.next = listener.next)
    (entered : after.entered = listener.entered)
    (tokens : after.gateway.tokens = listener.gateway.tokens ∨ listener.admissions = [])
    (unread : after.lock = .writing → listener.admissions = [])
    (ended : after.phase = .ending ∨ after.phase = .drained → after.shutdown = true) :
    after.Sound where
  ids := registrations ▸ sound.ids
  fresh := by
    rw [registrations, next]
    exact sound.fresh
  entered := by
    rw [entered, next]
    exact sound.entered
  asked := by
    rw [admissions, next]
    exact sound.asked
  borrowed := by
    rw [admissions, registrations]
    exact sound.borrowed
  accepted admission member := by
    rw [admissions] at member
    obtain ⟨authority, owned, accepted⟩ := sound.accepted admission member
    rcases tokens with same | empty
    · refine ⟨authority, owned, ?_⟩
      rw [Listener.Accepts, same]
      exact accepted
    · rw [empty] at member
      cases member
  unread writing := admissions.trans (unread writing)
  ended := ended

end Operations

/-- A listener that was just bound is sound, since it serves nothing. -/
theorem Listener.bind_sound (gateway : Gateway) : (Listener.bind gateway).Sound where
  ids := List.nodup_nil
  fresh _ := nofun
  entered _ := nofun
  asked _ := nofun
  borrowed _ := nofun
  accepted _ := nofun
  unread := nofun
  ended := by rintro (ending | drained) <;> contradiction

section Steps

/-- An authentication leaves the store as it is. -/
theorem Gateway.authenticate_tokens (dec : Decimals) (journal : PairingJournal)
    (digestOf : String → TokenDigest) (gateway : Gateway) (presented : String) :
    (gateway.perform journal digestOf (.authenticate presented : TokenAct dec)).tokens =
      gateway.tokens := by
  rw [Gateway.perform]
  cases live : gateway.tokens with
  | none => exact live
  | some tokens =>
      change (gateway.admitting _).tokens = _
      cases tokens.authenticate digestOf presented <;> exact live

variable {dec : Decimals} {journal : PairingJournal} {digestOf : String → TokenDigest}
  {listener after : Listener} {act : ListenerAct dec}

/-- Every step keeps the listener sound. -/
theorem Listener.Sound.step (sound : listener.Sound)
    (step : ListenerStep journal digestOf listener act after) : after.Sound := by
  have same : listener.gateway.tokens = listener.gateway.tokens ∨ listener.admissions = [] :=
    .inl rfl
  cases step with
  | serve | refused =>
      exact sound.framed rfl rfl rfl rfl same sound.unread (by rintro (_ | _) <;> contradiction)
  | interrupt | serverEnds | notice | leave =>
      exact sound.framed rfl rfl rfl rfl same sound.unread fun _ => rfl
  | drain ending =>
      exact sound.framed rfl rfl rfl rfl same sound.unread fun _ => sound.ended (.inl ending)
  | supervisorEnds | close | cancel =>
      exact sound.framed rfl rfl rfl rfl same sound.unread sound.ended
  | lock _ unread => exact sound.framed rfl rfl rfl rfl same (fun _ => unread) sound.ended
  | unlock poisoned writing =>
      exact sound.framed rfl rfl rfl rfl same (fun _ => sound.unread writing) sound.ended
  | issue _ _ writing | revoke _ _ writing =>
      exact sound.framed rfl rfl rfl rfl (.inr (sound.unread writing)) sound.unread sound.ended
  | authenticate presented =>
      exact sound.framed rfl rfl rfl rfl
        (.inl (Gateway.authenticate_tokens dec journal ..)) sound.unread
        sound.ended
  | other => exact sound.framed rfl rfl rfl rfl same sound.unread sound.ended
  | handler | call | track | admitted | sweep | clone => exact sound.register _
  | enter authority call registered =>
      refine { sound with entered := fun other member => ?_ }
      rcases List.mem_cons.mp member with rfl | older
      · exact sound.fresh _ registered
      · exact sound.entered other older
  | lookStarted _ _ _ here | lookClosed _ _ _ here | lookShutdown _ _ _ here
  | workPinned _ _ here | workFresh _ _ _ _ here => exact sound.hold here fun _ => nofun
  | release registration _ unborrowed => exact sound.dropped unborrowed
  | ask id binding owner authority here free owned may accepted =>
      refine { sound with
        fresh := ?_, entered := ?_, asked := ?_, borrowed := ?_, accepted := ?_, unread := ?_ }
      · exact fun registration member =>
          (sound.fresh registration member).trans (Nat.lt_succ_self _)
      · exact fun call member => (sound.entered call member).trans (Nat.lt_succ_self _)
      · intro admission member
        rcases List.mem_append.mp member with older | last
        · exact ⟨(sound.asked admission older).1.trans (Nat.lt_succ_self _), fun final held =>
            ((sound.asked admission older).2 final held).trans (Nat.lt_succ_self _)⟩
        · obtain rfl := List.mem_singleton.mp last
          exact ⟨Nat.lt_succ_self _, nofun⟩
      · intro admission member
        rcases List.mem_append.mp member with older | last
        · exact sound.borrowed admission older
        · obtain rfl := List.mem_singleton.mp last
          exact here
      · intro admission member
        rcases List.mem_append.mp member with older | last
        · exact sound.accepted admission older
        · obtain rfl := List.mem_singleton.mp last
          exact ⟨authority, owned, accepted⟩
      · intro writing
        exact absurd (free.symm.trans writing) nofun
  | checkFirst admission here | checkSecond admission here =>
      exact sound.advance here rfl rfl rfl (sound.asked admission here).2
  | letGo admission => exact sound.letGo admission
  | confirm held last here there granted passed same later =>
      refine (sound.letGo last).advance ?_ rfl rfl rfl ?_
      · refine (List.mem_erase_of_ne ?_).mpr here
        rintro rfl
        exact absurd later (Nat.lt_irrefl _)
      · intro final held
        obtain rfl := Option.some.inj held
        exact (sound.asked last there).1
  | use held what here => exact sound.advance here rfl rfl rfl nofun
  | cleanup => exact sound

/-! ## After the drain -/

/-- A registration through which nothing passes any more. -/
def Registration.Idle (listener : Listener) (registration : Registration) : Prop :=
  match registration.holder with
  | .handler => True
  | .call _ => registration.id ∉ listener.entered
  | .admitting _ _ stage => stage ≠ .live
  | .tracker (.session _ call) => call ∉ listener.entered
  | .tracker _ => False

/-- Past `execution.closed()`: the tasks have ended and nobody who registers gets through. -/
structure Listener.Quiet (listener : Listener) : Prop where
  phase : listener.phase = .drained ∨ listener.phase = .left
  shutdown : listener.shutdown = true
  supervisor : listener.supervisor = false
  unborrowed : listener.admissions = []
  idle : ∀ registration ∈ listener.registrations, registration.Idle listener

/-- The acts by which work is admitted, enters a tool, passes a signing admission, or uses
one. -/
def ListenerAct.Passes : ListenerAct dec → Prop
  | .enter _ | .work _ | .ask _ _ | .check _ | .confirm _ _ | .use _ _ | .cleanup _ _ => True
  | _ => False

section Quiet

/-- A quiet listener stays so when an idle holder is registered. -/
theorem Listener.Quiet.registered (quiet : listener.Quiet) {holder : Holder}
    (idle : (⟨listener.next, holder⟩ : Registration).Idle listener) :
    (listener.register holder).Quiet where
  phase := quiet.phase
  shutdown := quiet.shutdown
  supervisor := quiet.supervisor
  unborrowed := quiet.unborrowed
  idle registration member := by
    rcases Listener.mem_register.mp member with older | rfl
    · exact quiet.idle registration older
    · exact idle

/-- A quiet listener stays so when a registration passes to an idle holder. -/
theorem Listener.Quiet.holding (quiet : listener.Quiet) {id : Nat} {holder : Holder}
    (idle : (⟨id, holder⟩ : Registration).Idle listener) : (listener.hold id holder).Quiet where
  phase := quiet.phase
  shutdown := quiet.shutdown
  supervisor := quiet.supervisor
  unborrowed := quiet.unborrowed
  idle registration member := by
    rcases Listener.mem_hold member with older | rfl
    · exact quiet.idle registration older
    · exact idle

/-- Once it is drained, nothing passes, and it stays so. -/
theorem Listener.Quiet.step (quiet : listener.Quiet) (sound : listener.Sound)
    (step : ListenerStep journal digestOf listener act after) : ¬ act.Passes ∧ after.Quiet := by
  have stopped {stopping : Prop} (running : listener.phase = .bound ∨ listener.phase = .serving ∨
      listener.phase = .ending) : stopping := by
    rcases quiet.phase with phase | phase <;> rw [phase] at running <;>
      rcases running with _ | _ | _ <;> contradiction
  have none {admission : SigningAdmission} {impossible : Prop}
      (here : admission ∈ listener.admissions) : impossible := by
    rw [quiet.unborrowed] at here
    cases here
  cases step with
  | serve bound | refused bound => exact stopped (.inl bound)
  | interrupt running | serverEnds running | supervisorEnds running =>
      exact stopped (.inr running)
  | notice running => exact stopped (.inr (.inl running))
  | drain ending => exact stopped (.inr (.inr ending))
  | leave => exact ⟨id, { quiet with phase := .inr rfl, shutdown := rfl }⟩
  | close | lock | unlock | issue | revoke | authenticate | other | cancel =>
      exact ⟨id, { quiet with }⟩
  | handler => exact ⟨id, quiet.registered trivial⟩
  | call => exact ⟨id, quiet.registered fun entered => absurd (sound.entered _ entered)
      (Nat.lt_irrefl _)⟩
  | track authority call registered =>
      have idle := quiet.idle ⟨call, .call authority⟩ registered
      exact ⟨id, quiet.registered idle⟩
  | enter _ _ _ _ running => exact absurd (quiet.shutdown.symm.trans running) nofun
  | admitted => exact ⟨id, quiet.registered nofun⟩
  | lookStarted | lookClosed => exact ⟨id, quiet.holding nofun⟩
  | lookShutdown _ _ _ _ passes => exact absurd (quiet.shutdown.symm.trans passes) nofun
  | workPinned _ _ here | workFresh _ _ _ _ here => exact absurd rfl (quiet.idle _ here)
  | sweep alive => exact absurd (quiet.supervisor.symm.trans alive) nofun
  | clone tracker owner here =>
      refine ⟨id, quiet.registered ?_⟩
      have idle := quiet.idle ⟨tracker, .tracker owner⟩ here
      cases owner with
      | session authority call => exact idle
      | native | supervision => exact idle.elim
  | release registration here =>
      have idle : ∀ other ∈ (listener.dropped registration).registrations,
          other.Idle (listener.dropped registration) := fun other member =>
        quiet.idle other (List.mem_of_mem_erase member)
      exact ⟨id, { quiet with idle }⟩
  | ask id binding owner authority here free owned may =>
      cases owner with
      | session authority call => exact absurd may.2 (quiet.idle _ here)
      | native | supervision => exact (quiet.idle _ here).elim
  | checkFirst admission here | checkSecond admission here => exact none here
  | letGo admission here => exact none here
  | confirm held last here => exact none here
  | use held what here => exact none here
  | cleanup id what here => exact (quiet.idle _ here).elim

end Quiet

/-! ## After a stop -/

/-- A stop that concerns the work of an owner: the shutdown, and closure for native work. -/
def Listener.Stopped (listener : Listener) : ExecutionOwner → Prop
  | .session _ _ => listener.shutdown = true
  | .native _ => listener.closed = true ∨ listener.shutdown = true
  | .supervision => True

/-- Since a stop, no admission asked for later was granted. -/
structure Listener.Refuses (stop later : Listener) : Prop where
  next : stop.next ≤ later.next
  closed : stop.closed = true → later.closed = true
  shutdown : stop.shutdown = true → later.shutdown = true
  late : ∀ admission ∈ later.admissions, stop.Stopped admission.owner → stop.next ≤ admission.id →
    admission.stage ≠ .granted ∧
      (stop.firstFlag admission.owner = true → admission.stage = .authorised)
  final : ∀ admission ∈ later.admissions, stop.Stopped admission.owner →
    ∀ final ∈ admission.final, final < stop.next

section Refusals

variable {stop : Listener}

/-- At the moment it is stopped a listener refuses what begins from then on. -/
theorem Listener.Refuses.refl (sound : listener.Sound) : listener.Refuses listener where
  next := le_rfl
  closed := id
  shutdown := id
  late admission member _ late := absurd late (not_le.mpr (sound.asked admission member).1)
  final admission member _ := (sound.asked admission member).2

/-- The flags stay set. -/
theorem Listener.Refuses.firstFlag (refuses : stop.Refuses listener) {owner : ExecutionOwner}
    (set : stop.firstFlag owner = true) : listener.firstFlag owner = true := by
  cases owner with
  | session => exact refuses.shutdown set
  | native => exact refuses.closed set
  | supervision => rfl

/-- Admissions and ids as they were, and no flag cleared. -/
theorem Listener.Refuses.framed (refuses : stop.Refuses listener)
    (admissions : after.admissions = listener.admissions) (next : listener.next ≤ after.next)
    (closed : listener.closed = true → after.closed = true)
    (shutdown : listener.shutdown = true → after.shutdown = true) : stop.Refuses after where
  next := refuses.next.trans next
  closed := closed ∘ refuses.closed
  shutdown := shutdown ∘ refuses.shutdown
  late := admissions ▸ refuses.late
  final := admissions ▸ refuses.final

/-- A stopped listener refuses as before when an admission lets go. -/
theorem Listener.Refuses.letGo (refuses : stop.Refuses listener) (admission : SigningAdmission) :
    stop.Refuses { listener with admissions := listener.admissions.erase admission } where
  next := refuses.next
  closed := refuses.closed
  shutdown := refuses.shutdown
  late other member := refuses.late other (List.mem_of_mem_erase member)
  final other member := refuses.final other (List.mem_of_mem_erase member)

/-- A stopped listener refuses as before when an admission advances that was not late. -/
theorem Listener.Refuses.advance (refuses : stop.Refuses listener)
    {admission next : SigningAdmission}
    (late : stop.Stopped next.owner → stop.next ≤ next.id → next.stage ≠ .granted ∧
      (stop.firstFlag next.owner = true → next.stage = .authorised))
    (final : stop.Stopped next.owner → ∀ final ∈ next.final, final < stop.next) :
    stop.Refuses (listener.advance admission next) where
  next := refuses.next
  closed := refuses.closed
  shutdown := refuses.shutdown
  late other member := by
    rcases Listener.mem_advance member with older | rfl
    · exact refuses.late other older
    · exact late
  final other member := by
    rcases Listener.mem_advance member with older | rfl
    · exact refuses.final other older
    · exact final

/-- A step does not grant what was asked for after the stop. -/
theorem Listener.Refuses.step (refuses : stop.Refuses listener) (sound : listener.Sound)
    (step : ListenerStep journal digestOf listener act after) : stop.Refuses after := by
  cases step with
  | serve | refused | supervisorEnds | drain | lock | unlock | issue | revoke | authenticate
  | other | enter | cancel | lookStarted | lookClosed | lookShutdown | workPinned | workFresh
  | release => exact refuses.framed rfl le_rfl id id
  | interrupt | leave => exact refuses.framed rfl le_rfl (fun _ => rfl) fun _ => rfl
  | serverEnds | notice => exact refuses.framed rfl le_rfl id fun _ => rfl
  | close => exact refuses.framed rfl le_rfl (fun _ => rfl) id
  | handler | call | track | admitted | sweep | clone =>
      exact refuses.framed rfl (Nat.le_succ _) id id
  | ask tracker binding owner =>
      refine { refuses with next := refuses.next.trans (Nat.le_succ _), late := ?_, final := ?_ }
      · intro admission member stopped
        rcases List.mem_append.mp member with older | last
        · exact refuses.late admission older stopped
        · obtain rfl := List.mem_singleton.mp last
          exact fun _ => ⟨nofun, fun _ => rfl⟩
      · intro admission member stopped
        rcases List.mem_append.mp member with older | last
        · exact refuses.final admission older stopped
        · obtain rfl := List.mem_singleton.mp last
          exact fun _ => nofun
  | checkFirst admission here stage passes =>
      refine refuses.advance (fun stopped late => ⟨nofun, fun set => ?_⟩)
        (refuses.final admission here)
      exact absurd ((refuses.firstFlag set).symm.trans passes) nofun
  | checkSecond admission here stage passes =>
      refine refuses.advance (fun stopped late => ?_) (refuses.final admission here)
      -- the second flag is set, or the first one was when the admission passed it
      have beyond (set : stop.firstFlag admission.owner = true) : False := by
        have held := (refuses.late admission here stopped late).2 set
        exact absurd (stage.symm.trans held) nofun
      change stop.Stopped admission.owner at stopped
      exfalso
      revert stopped beyond passes
      cases admission.owner with
      | session => exact fun _ beyond stopped => beyond stopped
      | native =>
          rintro passes beyond (closed | shutdown)
          · exact beyond closed
          · exact absurd ((refuses.shutdown shutdown).symm.trans passes) nofun
      | supervision => exact fun passes _ _ => absurd passes nofun
  | letGo admission => exact refuses.letGo admission
  | confirm held last here there granted passed same =>
      refine (refuses.letGo last).advance (refuses.late held here) fun stopped final held' => ?_
      obtain rfl := Option.some.inj held'
      have owner : last.owner = held.owner := by
        have borrowed := sound.borrowed last there
        rw [same] at borrowed
        exact Holder.tracker.inj (sound.unique borrowed (sound.borrowed held here))
      by_contra late
      exact (refuses.late last there (owner ▸ stopped) (not_lt.mp late)).1 passed
  | use held what here =>
      exact refuses.advance (refuses.late held here) fun _ _ => nofun
  | cleanup => exact refuses

end Refusals

/-! ## The pairings -/

/-- What a step does to the store and its ledger is a step of the gateway, or nothing. -/
theorem ListenerStep.gateway (step : ListenerStep journal digestOf listener act after) :
    ∃ acts, Run (@TokenStep dec journal digestOf) listener.gateway acts after.gateway := by
  have own (act : TokenAct dec) (plain : ∀ request, act ≠ .other request) :
      Run (@TokenStep dec journal digestOf) listener.gateway [act]
        (listener.gateway.perform journal digestOf act) :=
    .single ⟨fun request same => absurd same (plain request), rfl⟩
  cases step with
  | issue binding met => exact ⟨_, own (.issue binding met) fun _ => nofun⟩
  | revoke id met => exact ⟨_, own (.revoke id met) fun _ => nofun⟩
  | authenticate presented => exact ⟨_, own (.authenticate presented) fun _ => nofun⟩
  | other request spares =>
      refine ⟨[.other request], .single ⟨fun same other => ?_, rfl⟩⟩
      obtain rfl := TokenAct.other.inj other
      exact spares
  | _ => exact ⟨[], .nil⟩

/-- A run of the listener is one of its gateway, of some of its acts. -/
theorem gateway_run {acts : List (ListenerAct dec)}
    (run : Run (ListenerStep journal digestOf) listener acts after) :
    ∃ acts, Run (@TokenStep dec journal digestOf) listener.gateway acts after.gateway := by
  refine run.invariant
    (fun last => ∃ acts, Run (@TokenStep dec journal digestOf) listener.gateway acts last.gateway)
    ?_ ⟨[], .nil⟩
  rintro before act after ⟨acts, run⟩ step
  obtain ⟨more, onward⟩ := step.gateway
  exact ⟨acts ++ more, run.append onward⟩

theorem Listener.Sound.run (sound : listener.Sound) {acts : List (ListenerAct dec)}
    (run : Run (ListenerStep journal digestOf) listener acts after) : after.Sound :=
  run.invariant Listener.Sound (fun _ _ _ sound step => sound.step step) sound

/-- A listener that was stopped refuses over every run from then on. -/
theorem Listener.Refuses.run (sound : listener.Sound) {acts : List (ListenerAct dec)}
    (run : Run (ListenerStep journal digestOf) listener acts after) : listener.Refuses after := by
  refine (run.invariant (fun last => last.Sound ∧ listener.Refuses last) ?_
    ⟨sound, .refl sound⟩).2
  exact fun _ _ _ held step => ⟨held.1.step step, held.2.step held.1 step⟩

/-- A quiet listener passes nothing over a run and stays quiet. -/
theorem Listener.Quiet.run (quiet : listener.Quiet) (sound : listener.Sound)
    {acts : List (ListenerAct dec)}
    (run : Run (ListenerStep journal digestOf) listener acts after) :
    (∀ act ∈ acts, ¬ act.Passes) ∧ after.Quiet := by
  refine (run.history (fun seen last => last.Sound ∧ (∀ act ∈ seen, ¬ act.Passes) ∧ last.Quiet)
    ⟨sound, fun _ => nofun, quiet⟩ ?_).2
  rintro seen before act last _ ⟨sound, calm, quiet⟩ step
  obtain ⟨refused, quiet'⟩ := quiet.step sound step
  refine ⟨sound.step step, fun other member => ?_, quiet'⟩
  rcases List.mem_append.mp member with older | same
  · exact calm other older
  · rw [List.mem_singleton.mp same]
    exact refused

/-- Nothing is registered, so nothing is borrowed. -/
theorem Listener.Sound.drained (sound : listener.Sound)
    (step : ListenerStep journal digestOf listener (.drain : ListenerAct dec) after) :
    listener.registrations = [] ∧ listener.admissions = [] ∧ after.Quiet := by
  cases step with
  | drain ending server supervisor empty =>
      have unborrowed : listener.admissions = [] := by
        refine List.eq_nil_iff_forall_not_mem.mpr fun admission member => ?_
        have borrowed := sound.borrowed admission member
        rw [empty] at borrowed
        cases borrowed
      refine ⟨empty, unborrowed, .inl rfl, sound.ended (.inl ending), supervisor, unborrowed, ?_⟩
      intro registration member
      rw [show ({ listener with phase := .drained } : Listener).registrations = [] from empty]
        at member
      cases member

end Steps

/-! ## Guarantees -/

/-- The pairings a listener's store answers for. -/
def Listener.History (journal : PairingJournal) (listener : Listener)
    (pairings : List Pairing) : Prop :=
  Paired journal listener.gateway.ledger pairings ∧
    ∀ read, pairingReplay journal listener.gateway.ledger = .ok read → read = pairings

/-- What holds of a listener from here on: once it is drained nothing passes any more; a use
of a signing admission after a stop rests on admissions asked for before it; and every
admission held is of a live pairing, never of one that was revoked, whichever others live. -/
structure ListenerDrain (dec : Decimals) (journal : PairingJournal)
    (digestOf : String → TokenDigest) (listener : Listener) (pairings : List Pairing) : Prop where
  history : listener.History journal pairings
  drains : ∀ drained acts last,
    ListenerStep journal digestOf listener (.drain : ListenerAct dec) drained →
      Run (@ListenerStep dec journal digestOf) drained acts last →
        listener.registrations = [] ∧ listener.admissions = [] ∧
          (∀ act ∈ acts, ¬ act.Passes) ∧ ∀ registration ∈ last.registrations, registration.Idle last
  refuses : ∀ acts last held what after,
    Run (@ListenerStep dec journal digestOf) listener acts last →
      ListenerStep journal digestOf last (.use held what : ListenerAct dec) after →
        ∃ admission ∈ last.admissions, admission.id = held ∧ admission.stage = .granted ∧
          (what = .acknowledgment ∨ admission.final.isSome = true) ∧
          (listener.Stopped admission.owner →
            held < listener.next ∧ ∀ final ∈ admission.final, final < listener.next)
  live : ∀ admission ∈ listener.admissions, ∃ authority pairing,
    admission.owner.authority = some authority ∧ LivePairing pairings pairing ∧
      pairing.record.id = authority.id ∧ pairing.record.binding = authority.binding
  revoked : ∀ pairing ∈ pairings, pairing.record.revokedAtMs.isSome = true →
    ∀ acts last, Run (@ListenerStep dec journal digestOf) listener acts last →
      ∀ admission ∈ last.admissions, ∀ authority ∈ admission.owner.authority,
        authority.id ≠ pairing.record.id

section Guarantees

variable {dec : Decimals} {journal : PairingJournal} {listener : Listener}
  {pairings : List Pairing}

/-- An admission is of a pairing that is live in the journal. -/
theorem Listener.Sound.live (digestOf : String → TokenDigest) (sound : listener.Sound)
    (cached : Cached journal listener.gateway pairings) {admission : SigningAdmission}
    (member : admission ∈ listener.admissions) : ∃ authority pairing,
      admission.owner.authority = some authority ∧ LivePairing pairings pairing ∧
        pairing.record.id = authority.id ∧ pairing.record.binding = authority.binding := by
  obtain ⟨authority, owned, tokens, held, accepted⟩ := sound.accepted admission member
  have faithful : Faithful digestOf tokens pairings := cached.faithful held
  obtain ⟨_, _, pairing, live, id, binding⟩ := faithful.honours authority accepted
  exact ⟨authority, pairing, owned, live, id, binding⟩

/-- An admission is not of a pairing that was revoked before. -/
theorem Listener.Sound.unrevoked (digestOf : String → TokenDigest) (sound : listener.Sound)
    {earlier : List Pairing} (cached : Cached journal listener.gateway pairings)
    (kept : PairingsKept earlier pairings) {pairing : Pairing} (known : pairing ∈ earlier)
    (revoked : pairing.record.revokedAtMs.isSome = true) {admission : SigningAdmission}
    (member : admission ∈ listener.admissions) {authority : SessionAuthority}
    (owned : authority ∈ admission.owner.authority) : authority.id ≠ pairing.record.id := by
  intro same
  obtain ⟨other, live, found, lives, id, _⟩ := sound.live digestOf cached member
  obtain rfl := Option.some.inj (found.symm.trans owned)
  obtain ⟨later, inside, id', _, _, gone⟩ := kept pairing known
  have seqs := cached.paired.sound.seqs
  have both : live = later := List.inj_on_of_nodup_map seqs lives.1 inside
    (congrArg PairingId.issuedSeq (id.trans (same.trans id'.symm)))
  have absent := lives.2
  rw [both] at absent
  exact absurd (gone revoked) (by rw [absent]; exact Bool.false_ne_true)

/-- **Listener drain.** In every interleaving of tool calls, native admissions, sweeps,
revocations, closure and shutdown: past `execution.closed()` nothing is registered, nothing
is admitted, enters a tool, passes a signing admission or signs; after a shutdown, and for
native work after a closure, a signature rests on admissions asked for before; and an
admission is of a pairing live in the journal, never of one that was revoked. -/
theorem listener_drains (journal : PairingJournal) (digestOf : String → TokenDigest)
    {before : List (TokenAct dec)} {gateway : Gateway}
    (prior : Run (TokenStep journal digestOf) (Gateway.fresh journal) before gateway)
    {acts : List (ListenerAct dec)}
    (run : Run (ListenerStep journal digestOf) (.bind gateway) acts listener) :
    ∃ pairings, ListenerDrain dec journal digestOf listener pairings := by
  have sound := (Listener.bind_sound gateway).run run
  obtain ⟨_, onward⟩ := gateway_run run
  obtain ⟨behind, pairings, tracks, cached, _⟩ :=
    fresh_cached.run opened_tracks (prior.append onward)
  refine ⟨pairings, ⟨cached.paired, fun read => cached.paired.of_replay⟩, ?_, ?_,
    fun admission member => sound.live digestOf cached member, ?_⟩
  · intro drained acts last step later
    obtain ⟨empty, unborrowed, quiet⟩ := sound.drained step
    obtain ⟨refused, quiet'⟩ := quiet.run (sound.step step) later
    exact ⟨empty, unborrowed, refused, quiet'.idle⟩
  · intro acts last held what after later step
    have refuses := Listener.Refuses.run sound later
    cases step with
    | use admission what here granted final =>
        refine ⟨admission, here, rfl, granted, final, fun stopped => ⟨?_, ?_⟩⟩
        · by_contra late
          exact (refuses.late admission here stopped (not_lt.mp late)).1 granted
        · exact refuses.final admission here stopped
  · intro pairing member revoked acts last later admission held authority owned
    obtain ⟨_, further⟩ := gateway_run later
    obtain ⟨_, next, _, cached', kept⟩ := cached.run tracks further
    exact (sound.run later).unrevoked digestOf cached' kept member revoked held owned

end Guarantees

namespace OneListener

open OneToken

def authority : SessionAuthority := ⟨⟨.testnet, 1⟩, binding, 0⟩

def owner : ExecutionOwner := .session authority 0

section Runs

variable (gateway : Gateway)

/-- The gateway knows a session of the authority, and its store answers for it. -/
structure Answers : Prop where
  known : authority ∈ gateway.sessions
  accepted : ∃ tokens ∈ gateway.tokens, tokens.checkAuthority authority = .ok () ∧
    ∃ record ∈ tokens.get authority.id, record.revoked = false

/-- A tool call under way when native work is closed. -/
def closing : Listener :=
  { Listener.bind gateway with
    phase := .serving
    started := true
    closed := true
    registrations := [⟨0, .call authority⟩, ⟨1, .tracker owner⟩]
    entered := [0]
    next := 2 }

/-- The call at its signature. -/
def signing : Listener :=
  { closing gateway with admissions := [⟨2, 1, owner, .granted, some 3⟩], next := 4 }

/-- A confirmed review at its signature. -/
def reviewed : Listener :=
  { Listener.bind gateway with
    phase := .serving
    started := true
    registrations := [⟨0, .tracker (.native authority)⟩]
    admissions := [⟨1, 0, .native authority, .granted, some 2⟩]
    next := 3 }

def Steps (acts : List (ListenerAct .reference)) (before after : Listener) : Prop :=
  Run (ListenerStep journal digestOf) before acts after

variable {gateway} (answers : Answers gateway)
include answers

/-- The sample's gateway accepts its authority. -/
theorem Answers.accepts {listener : Listener} (same : listener.gateway = gateway) :
    listener.Accepts authority := by
  obtain ⟨tokens, held, accepted, _⟩ := answers.accepted
  exact ⟨tokens, same ▸ held, accepted⟩

/-- The authority of the sample was not ended. -/
theorem Answers.not_ended {listener : Listener} (same : listener.gateway = gateway) :
    ¬ listener.Ended authority := by
  obtain ⟨tokens, held, _, record, found, unrevoked⟩ := answers.accepted
  intro ended
  exact absurd ((ended tokens (same ▸ held) record found).symm.trans unrevoked) nofun

/-- The sample serves one call, tracks it and begins to close. -/
theorem Answers.closing_run : Steps [.serve, .call authority, .track 0, .enter 0, .close]
    (.bind gateway) (closing gateway) := by
  refine .snoc (.snoc (.snoc (.snoc (.snoc .nil (.serve rfl rfl rfl))
    (.call authority answers.known)) (.track authority 0 (.head _)))
    (.enter authority 0 (.head _) (answers.not_ended rfl) rfl nofun)) .close

/-- The tracked call asks, is checked and signs while the listener closes. -/
theorem Answers.signing_run : Steps [.ask 1 binding, .check 2, .check 2, .ask 1 binding,
    .check 3, .check 3, .confirm 2 3] (closing gateway) (signing gateway) := by
  refine .snoc (.snoc (.snoc (.snoc (.snoc (.snoc (.snoc .nil
    (.ask 1 binding owner authority (.tail _ (.head _)) rfl rfl ⟨rfl, .head _⟩
      (answers.accepts rfl)))
    (.checkFirst ⟨2, 1, owner, .authorised, none⟩ (.head _) rfl rfl))
    (.checkSecond ⟨2, 1, owner, .running, none⟩ (.head _) rfl rfl))
    (.ask 1 binding owner authority (.tail _ (.head _)) rfl rfl ⟨rfl, .head _⟩
      (answers.accepts rfl)))
    (.checkFirst ⟨3, 1, owner, .authorised, none⟩ (.tail _ (.head _)) rfl rfl))
    (.checkSecond ⟨3, 1, owner, .running, none⟩ (.tail _ (.head _)) rfl rfl))
    (.confirm ⟨2, 1, owner, .granted, none⟩ ⟨3, 1, owner, .granted, none⟩ (.head _)
      (.tail _ (.head _)) rfl rfl rfl (Nat.lt_succ_self 2))

/-- A second session has its review confirmed before the listener closes. -/
theorem Answers.reviewed_run : Steps [.serve, .admitted binding (some authority), .look 0, .look 0,
    .look 0, .work 0, .ask 0 binding, .check 1, .check 1, .ask 0 binding, .check 2, .check 2,
    .confirm 1 2] (.bind gateway) (reviewed gateway) := by
  have worked : Steps [.serve, .admitted binding (some authority), .look 0,
    .look 0, .look 0, .work 0]
      (.bind gateway) { reviewed gateway with admissions := [], next := 1 } := by
    refine .snoc (.snoc (.snoc (.snoc (.snoc (.snoc .nil (.serve rfl rfl rfl))
      (.admitted binding (some authority))) (.lookStarted 0 _ _ (.head _) rfl))
      (.lookClosed 0 _ _ (.head _) rfl)) (.lookShutdown 0 _ _ (.head _) rfl))
      (.workPinned 0 authority (.head _) rfl (answers.accepts rfl))
  refine .snoc (.snoc (.snoc (.snoc (.snoc (.snoc (.snoc worked
    (.ask 0 binding (.native authority) authority (.head _) rfl rfl trivial (answers.accepts rfl)))
    (.checkFirst ⟨1, 0, .native authority, .authorised, none⟩ (.head _) rfl rfl))
    (.checkSecond ⟨1, 0, .native authority, .running, none⟩ (.head _) rfl rfl))
    (.ask 0 binding (.native authority) authority (.head _) rfl rfl trivial (answers.accepts rfl)))
    (.checkFirst ⟨2, 0, .native authority, .authorised, none⟩ (.tail _ (.head _)) rfl rfl))
    (.checkSecond ⟨2, 0, .native authority, .running, none⟩ (.tail _ (.head _)) rfl rfl))
    (.confirm ⟨1, 0, .native authority, .granted, none⟩ ⟨2, 0, .native authority, .granted, none⟩
      (.head _) (.tail _ (.head _)) rfl rfl rfl (Nat.lt_succ_self 1))

end Runs

/-- The gateway that was entered answers for its binding. -/
theorem entered_answers : Answers entered := ⟨by decide +kernel, by decide +kernel⟩

/-- A tool call that was under way when native work was closed asks for both its admissions
afterwards and is signed; so is a confirmed review that was shut down after its last look. -/
theorem signed_after_stop :
    (∃ acts later listener last after, Steps acts (.bind entered) listener ∧
      listener.closed = true ∧ listener.shutdown = false ∧ Steps later listener last ∧
      ListenerStep journal digestOf last (.use listener.next .signature :
        ListenerAct .reference) after) ∧
    ∃ acts listener after, Steps acts (.bind entered) listener ∧ listener.shutdown = true ∧
      ListenerStep journal digestOf listener
        (.use 1 .signature : ListenerAct .reference) after := by
  have answers := entered_answers
  refine ⟨⟨_, _, _, _, _, answers.closing_run, rfl, rfl, answers.signing_run,
    .use ⟨2, 1, owner, .granted, some 3⟩ .signature (.head _) rfl (.inr rfl)⟩,
    ⟨_, _, _, .snoc answers.reviewed_run (.interrupt (.inl rfl)), rfl,
      .use ⟨1, 0, .native authority, .granted, some 2⟩ .signature (.head _) rfl (.inr rfl)⟩⟩

/-- The call at its signature is of a live pairing. -/
theorem signing_drains : (signing entered).admissions.length = 1 ∧
    ∃ pairings, ListenerDrain .reference journal digestOf (signing entered) pairings :=
  ⟨rfl, listener_drains journal digestOf entered_run
    (entered_answers.closing_run.append entered_answers.signing_run)⟩

end OneListener

end Oppen.Mcp
