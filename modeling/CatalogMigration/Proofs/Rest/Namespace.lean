import CatalogMigration.Proofs.Rest.Calls
import CatalogMigration.Proofs.Session.Interleaving
import CatalogMigration.Server.Basic
import Mathlib.Data.List.Nodup

namespace CatalogMigration

open Program

namespace RestSession

variable {σ α : Type}

def linked (s : RestSession) (l : EngineLink) : RestSession :=
  { s with engine := s.engine.linked l }

def conclude (s : RestSession) :
    Except EngineFault Unit → Exchange (Except SessionError Unit × RestSession)
  | .error f => .done (.error (s.interrupted "ensure_namespace" (.engine f)), s)
  | .ok () => .act (.log ⟨.debug, "migration_tests::session::rest", "created namespace", []⟩)
    (.done (.ok (), s))

def settle (space : String) (s : RestSession) :
    Except EngineFault EngineLink → Exchange (Except SessionError Unit × RestSession)
  | .error f => .done (.error (s.interrupted "ensure_namespace" (.engine f)), s)
  | .ok l => (l.spaceExists (levels space)).bind fun
    | .error f => .done (.error (s.interrupted "ensure_namespace" (.engine f)), s.linked l)
    | .ok true => .done (.ok (), s.linked l)
    | .ok false => (l.createSpace (levels space)).bind (conclude (s.linked l))

theorem answer_ensureNamespace_eq (space : String) (s : RestSession) :
    answer (.ensureNamespace space) s = s.engine.linking.bind (settle space s) := by
  rw [answer, bounded, ensureNamespace, Step.bind_eq, Step.ofEngine_eq, bind_assoc, bind_assoc]
  congr 1
  funext found
  cases found with
  | error f => rfl
  | ok l =>
    simp only [settle, bind_assoc]
    congr 1
    funext known
    cases known with
    | error f => rfl
    | ok known =>
      cases known with
      | true => rfl
      | false =>
        simp only [Program.bind]
        rw [if_neg (by simp), Step.bind_eq, Step.ofEngine_linked, bind_assoc, bind_assoc]
        congr 1
        funext made
        cases made <;> rfl

/-- What a catalog replies to an engine about a namespace. A check tells whether it is known, and a
creation makes it known or is refused with a conflict where it is known already. -/
structure Keeps (host : Host Request (fun _ => Reply) σ) (known : σ → Prop) (levels : List String)
    (l : EngineLink) : Prop where
  checked : ∃ r, l.spaceCheck? levels = some r ∧ ∀ now s,
    (∃ status body, (host r now s).1 = .response status body ∧
      (known s → status = 200 ∨ status = 204) ∧ (¬ known s → status = 404)) ∧
    (known (host r now s).2.1 ↔ known s)
  created : ∃ r, l.spaceCreation? levels = some r ∧ ∀ now s,
    (∃ status body, (host r now s).1 = .response status body ∧
      (known s → status = 409) ∧
      (¬ known s → EngineLink.readSpace status body = .ok ())) ∧
    known (host r now s).2.1

def Serves (host : Host Request (fun _ => Reply) σ) (known : σ → Prop) (levels : List String)
    (e : Engine) : Prop :=
  Leads host known (fun r => ∃ l, r = .ok l ∧ Keeps host known levels l) e.linking

def Tried (levels : List String) (given : List ((_ : Request) × Reply)) : Prop :=
  ∃ x ∈ given, x.1.content = .space levels

def Refused (levels : List String) (given : List ((_ : Request) × Reply)) : Prop :=
  ∃ x ∈ given, x.1.content = .space levels ∧ ∃ body, x.2 = .response 409 body

/-- How far a session has come. -/
inductive Phase
  | asking
  | creating
  | made
  | found
  | refused

inductive Moves : Phase → Prop → Phase → Prop → Prop
  | stays (phase : Phase) {before after : Prop} (same : after ↔ before) :
    Moves phase before phase after
  | finds {before after : Prop} (known : before) (still : after) : Moves .asking before .found after
  | misses {before after : Prop} (unknown : ¬ before) (still : ¬ after) :
    Moves .asking before .creating after
  | makes {before after : Prop} (unknown : ¬ before) (known : after) :
    Moves .creating before .made after
  | fails {before after : Prop} (known : before) (still : after) :
    Moves .creating before .refused after

/-- What two sessions can have come to. A session that is still to create a namespace has not found
it, so if it is known by now the other has made it. -/
structure Together (a b : Phase) (known : Prop) : Prop where
  first : a = .made ∨ a = .found ∨ a = .refused → known
  second : b = .made ∨ b = .found ∨ b = .refused → known
  first_late : a = .creating ∧ known ∨ a = .refused → b = .made
  second_late : b = .creating ∧ known ∨ b = .refused → a = .made
  once : ¬ (a = .made ∧ b = .made)

theorem Together.symm {a b : Phase} {known : Prop} (holds : Together a b known) :
    Together b a known :=
  ⟨holds.second, holds.first, holds.second_late, holds.first_late, fun both => holds.once both.symm⟩

theorem Together.move {a b a' : Phase} {before after : Prop} (holds : Together a b before)
    (moves : Moves a before a' after) : Together a' b after := by
  obtain ⟨first, second, firstLate, secondLate, once⟩ := holds
  cases moves with
  | stays phase same => constructor <;> simp_all
  | finds known still => constructor <;> cases b <;> simp_all
  | misses unknown still => constructor <;> cases b <;> simp_all
  | makes unknown known => constructor <;> cases b <;> simp_all
  | fails known still => constructor <;> cases b <;> simp_all

def spaceTaken : SessionError := .catalog EngineFault.spaceExists.message

theorem interrupted_spaceExists (s : RestSession) (operation : String) :
    s.interrupted operation (.engine .spaceExists) = spaceTaken := by
  obtain ⟨_, _, _ | _⟩ := s <;> rfl

section Race

variable (host : Host Request (fun _ => Reply) σ) (known : σ → Prop) (space : String)
  (s : RestSession) (next : Except SessionError Unit × RestSession → Exchange α)
  (good bad : α → Prop)

inductive At : Phase → List ((_ : Request) × Reply) → Exchange α → Prop
  | asking {p : Exchange α} {given : List ((_ : Request) × Reply)}
    {start : Exchange (Except EngineFault EngineLink)}
    (form : p = start.bind fun r => (settle space s r).bind next)
    (leads : Leads host known (fun r => ∃ l, r = .ok l ∧ Keeps host known (levels space) l) start)
    (only : Only (fun r => r.content ≠ .space (levels space)) start)
    (untried : ¬ Tried (levels space) given) : At .asking given p
  | creating {p : Exchange α} {given : List ((_ : Request) × Reply)} {l : EngineLink}
    (form : p = (l.createSpace (levels space)).bind fun r => (conclude (s.linked l) r).bind next)
    (keeps : Keeps host known (levels space) l) (untried : ¬ Tried (levels space) given) :
    At .creating given p
  | made {p : Exchange α} {given : List ((_ : Request) × Reply)} (ends : Concludes good p)
    (tried : Tried (levels space) given) (unrefused : ¬ Refused (levels space) given) :
    At .made given p
  | found {p : Exchange α} {given : List ((_ : Request) × Reply)} (ends : Concludes good p)
    (untried : ¬ Tried (levels space) given) : At .found given p
  | refused {p : Exchange α} {given : List ((_ : Request) × Reply)} (ends : Concludes bad p)
    (refused : Refused (levels space) given) : At .refused given p

variable {host known space s next good bad} {p : Exchange α} {given : List ((_ : Request) × Reply)}

theorem Refused.tried {levels : List String} (refused : Refused levels given) :
    Tried levels given := by
  obtain ⟨x, member, creation, _⟩ := refused
  exact ⟨x, member, creation⟩

theorem tried_append {levels : List String} {x : (_ : Request) × Reply} :
    Tried levels (given ++ [x]) ↔ Tried levels given ∨ x.1.content = .space levels := by
  simp [Tried, or_and_right, exists_or]

theorem settle_eq {l : EngineLink} {r : Request} (asked : l.spaceCheck? (levels space) = some r) :
    settle space s (.ok l) = .call r fun reply =>
      match EngineLink.received EngineLink.readSpaceExistence reply with
      | .error f => .done (.error (s.interrupted "ensure_namespace" (.engine f)), s.linked l)
      | .ok true => .done (.ok (), s.linked l)
      | .ok false => (l.createSpace (levels space)).bind (conclude (s.linked l)) := by
  rw [settle, EngineLink.spaceExists, EngineLink.ask_of_request asked]
  rfl

theorem At.asked (accepted : ∀ t, Concludes good (next (.ok (), t))) {l : EngineLink}
    (keeps : Keeps host known (levels space) l) (untried : ¬ Tried (levels space) given)
    (now : Span) (state : σ) :
    let turn := ((settle space s (.ok l)).bind next).turn host now state
    ∃ phase, At host known space s next good bad phase (given ++ turn.given) turn.rest ∧
      Moves .asking (known state) phase (known turn.state) := by
  obtain ⟨r, asked, replies⟩ := keeps.checked
  obtain ⟨⟨status, body, answered, present, absent⟩, kept⟩ := replies now state
  have still : ¬ Tried (levels space) (given ++ [⟨r, .response status body⟩]) := by
    simp [tried_append, untried, (EngineLink.request?_fields asked).2.2]
  rw [settle_eq asked, Program.bind, Program.turn, answered, EngineLink.received]
  by_cases here : known state
  · have read : EngineLink.readSpaceExistence status body = .ok true := by
      rw [EngineLink.readSpaceExistence, if_pos (present here)]
    simp only [read, Program.bind]
    exact ⟨.found, .found (accepted (s.linked l)) still, .finds here (kept.mpr here)⟩
  · have read : EngineLink.readSpaceExistence status body = .ok false := by
      simp [EngineLink.readSpaceExistence, absent here]
    simp only [read]
    have form := bind_assoc (l.createSpace (levels space)) (conclude (s.linked l)) next
    exact ⟨.creating, .creating form keeps still, .misses here (mt kept.mp here)⟩

theorem At.tried (accepted : ∀ t, Concludes good (next (.ok (), t)))
    (rejected : ∀ t, Concludes bad (next (.error spaceTaken, t))) {l : EngineLink}
    (keeps : Keeps host known (levels space) l) (untried : ¬ Tried (levels space) given)
    (now : Span) (state : σ) :
    let turn := ((l.createSpace (levels space)).bind fun r =>
      (conclude (s.linked l) r).bind next).turn host now state
    ∃ phase, At host known space s next good bad phase (given ++ turn.given) turn.rest ∧
      Moves .creating (known state) phase (known turn.state) := by
  obtain ⟨r, asked, replies⟩ := keeps.created
  obtain ⟨⟨status, body, answered, conflict, success⟩, after⟩ := replies now state
  have content := (EngineLink.request?_fields asked).2.2
  rw [EngineLink.createSpace, EngineLink.ask_of_request asked, Program.bind, Program.turn, answered]
  simp only [Program.bind, EngineLink.received]
  -- The check was answered in an earlier state, so the namespace may be known by now.
  by_cases here : known state
  · obtain rfl := conflict here
    have last : ⟨r, .response 409 body⟩ ∈ given ++ [⟨r, Reply.response 409 body⟩] := by simp
    refine ⟨.refused, .refused ?_ ⟨_, last, content, body, rfl⟩, .fails here after⟩
    have read : EngineLink.readSpace 409 body = .error .spaceExists := rfl
    rw [read, conclude, interrupted_spaceExists]
    exact rejected _
  · rw [success here]
    refine ⟨.made, .made (.act _ (accepted _)) ?_ ?_, .makes here after⟩
    · exact tried_append.mpr (.inr content)
    · rintro ⟨x, member, creation, other, conflict⟩
      rcases List.mem_append.mp member with earlier | last
      · exact untried ⟨x, earlier, creation⟩
      · rw [List.mem_singleton.mp last] at conflict
        cases conflict
        cases success here

theorem At.turn (accepted : ∀ t, Concludes good (next (.ok (), t)))
    (rejected : ∀ t, Concludes bad (next (.error spaceTaken, t))) {phase : Phase}
    (holds : At host known space s next good bad phase given p) (now : Span) (state : σ) :
    ∃ phase', At host known space s next good bad phase' (given ++ (p.turn host now state).given)
      (p.turn host now state).rest ∧
      Moves phase (known state) phase' (known (p.turn host now state).state) := by
  cases holds with
  | asking form leads only untried =>
    subst form
    cases leads with
    | done holds =>
      obtain ⟨l, rfl, keeps⟩ := holds
      simp only [Program.bind]
      exact At.asked accepted keeps untried now state
    | call kept rest =>
      cases only with
      | call other only =>
        refine ⟨.asking, .asking rfl (rest now state) (only _) ?_, .stays _ (kept now state)⟩
        exact fun tried => (tried_append.mp tried).elim untried other
    | act a rest =>
      cases only with
      | act _ only =>
        rw [Program.bind, Program.turn, List.append_nil]
        exact ⟨.asking, .asking rfl rest only untried, .stays _ Iff.rfl⟩
  | creating form keeps untried =>
    subst form
    exact At.tried accepted rejected keeps untried now state
  | made ends tried unrefused =>
    obtain ⟨ends, none, same⟩ := ends.turn host now state
    rw [none, same, List.append_nil]
    exact ⟨.made, .made ends tried unrefused, .stays _ Iff.rfl⟩
  | found ends untried =>
    obtain ⟨ends, none, same⟩ := ends.turn host now state
    rw [none, same, List.append_nil]
    exact ⟨.found, .found ends untried, .stays _ Iff.rfl⟩
  | refused ends refused =>
    obtain ⟨ends, none, same⟩ := ends.turn host now state
    rw [none, same, List.append_nil]
    exact ⟨.refused, .refused ends refused, .stays _ Iff.rfl⟩

theorem At.ended {a : α} {phase : Phase}
    (holds : At host known space s next good bad phase given (.done a)) :
    phase = .made ∧ good a ∧ Tried (levels space) given ∧ ¬ Refused (levels space) given ∨
    phase = .found ∧ good a ∧ ¬ Tried (levels space) given ∨
    phase = .refused ∧ bad a ∧ Refused (levels space) given := by
  cases holds with
  | asking form leads only untried =>
    cases leads with
    | done holds =>
      obtain ⟨l, rfl, keeps⟩ := holds
      obtain ⟨r, asked, _⟩ := keeps.checked
      rw [Program.bind, settle_eq asked] at form
      cases form
    | call | act => cases form
  | creating form keeps untried =>
    obtain ⟨r, asked, _⟩ := keeps.created
    rw [EngineLink.createSpace, EngineLink.ask_of_request asked] at form
    cases form
  | made ends tried unrefused => exact .inl ⟨rfl, ends.result, tried, unrefused⟩
  | found ends untried => exact .inr (.inl ⟨rfl, ends.result, untried⟩)
  | refused ends refused => exact .inr (.inr ⟨rfl, ends.result, refused⟩)

theorem At.start (serves : Serves host known (levels space) s.engine) :
    At host known space s next good bad .asking []
      ((answer (.ensureNamespace space) s).bind next) := by
  refine .asking ?_ serves (s.engine.linking_only fun r _ kind => ?_) (by simp [Tried])
  · rw [answer_ensureNamespace_eq, bind_assoc]
  · rcases kind with ⟨-, content⟩ | ⟨-, pairs, content⟩ <;> simp [content]

theorem Together.start (known : Prop) : Together .asking .asking known := by
  constructor <;> simp

end Race

/-- How two calls for one namespace end. It is there, and a call fails just when its creation was
refused, as happens to one of the two if both have tried. -/
structure Raced {ε : Type} (known : σ → Prop) (levels : List String) (taken taken' : ε)
    (joint : Joint (fun _ => Reply) σ (Except ε Unit × RestSession)
      (Except ε Unit × RestSession)) : Prop where
  known : known joint.state
  first : joint.first.result.1 = .ok () ∧ ¬ Refused levels joint.first.answers ∨
    joint.first.result.1 = .error taken ∧ Refused levels joint.first.answers
  second : joint.second.result.1 = .ok () ∧ ¬ Refused levels joint.second.answers ∨
    joint.second.result.1 = .error taken' ∧ Refused levels joint.second.answers
  one : ¬ (Refused levels joint.first.answers ∧ Refused levels joint.second.answers)
  both : Refused levels joint.first.answers ∨ Refused levels joint.second.answers ↔
    Tried levels joint.first.answers ∧ Tried levels joint.second.answers

/-- What follows a call: it ends well where the call does, and with a failure of its own where the
namespace was taken. -/
structure Follows {ε : Type} (taken : ε)
    (next : Except SessionError Unit × RestSession → Exchange (Except ε Unit × RestSession)) :
    Prop where
  accepted : ∀ t, Concludes (fun x => x.1 = .ok ()) (next (.ok (), t))
  rejected : ∀ t, Concludes (fun x => x.1 = .error taken) (next (.error spaceTaken, t))

section Race

variable {ε : Type} {host : Host Request (fun _ => Reply) σ} {known : σ → Prop} {space : String}
  {s t : RestSession}
  {next next' : Except SessionError Unit × RestSession → Exchange (Except ε Unit × RestSession)}
  {taken taken' : ε}

theorem Raced.of_phases {a b : Phase}
    {joint : Joint (fun _ => Reply) σ (Except ε Unit × RestSession) (Except ε Unit × RestSession)}
    (first : At host known space s next (fun x => x.1 = .ok ()) (fun x => x.1 = .error taken) a
      joint.first.answers (.done joint.first.result))
    (second : At host known space t next' (fun x => x.1 = .ok ()) (fun x => x.1 = .error taken') b
      joint.second.answers (.done joint.second.result))
    (together : Together a b (known joint.state)) :
    Raced known (levels space) taken taken' joint := by
  rcases first.ended with ⟨rfl, ok, tried, unrefused⟩ | ⟨rfl, ok, untried⟩ | ⟨rfl, failed, refused⟩
  · rcases second.ended with ⟨rfl, ok', tried', unrefused'⟩ | ⟨rfl, ok', untried'⟩ |
      ⟨rfl, failed', refused'⟩
    · exact absurd ⟨rfl, rfl⟩ together.once
    · exact ⟨together.first (.inl rfl), .inl ⟨ok, unrefused⟩, .inl ⟨ok', mt Refused.tried untried'⟩,
        fun both => unrefused both.1, by simp [unrefused, untried', mt Refused.tried untried']⟩
    · exact ⟨together.first (.inl rfl), .inl ⟨ok, unrefused⟩, .inr ⟨failed', refused'⟩,
        fun both => unrefused both.1, by simp [tried, refused', refused'.tried]⟩
  · have unrefused := mt Refused.tried untried
    rcases second.ended with ⟨rfl, ok', tried', unrefused'⟩ | ⟨rfl, ok', untried'⟩ |
      ⟨rfl, failed', refused'⟩
    · exact ⟨together.second (.inl rfl), .inl ⟨ok, unrefused⟩, .inl ⟨ok', unrefused'⟩,
        fun both => unrefused both.1, by simp [unrefused, untried, unrefused']⟩
    · exact ⟨together.second (.inr (.inl rfl)), .inl ⟨ok, unrefused⟩,
        .inl ⟨ok', mt Refused.tried untried'⟩, fun both => unrefused both.1,
        by simp [unrefused, untried, mt Refused.tried untried']⟩
    · cases together.second_late (.inr rfl)
  · obtain rfl := together.first_late (.inr rfl)
    rcases second.ended with ⟨-, ok', tried', unrefused'⟩ | ⟨other, -⟩ | ⟨other, -⟩
    · exact ⟨together.second (.inl rfl), .inr ⟨failed, refused⟩, .inl ⟨ok', unrefused'⟩,
        fun both => unrefused' both.2, by simp [refused, refused.tried, tried']⟩
    · cases other
    · cases other

theorem raced_of_serves (follows : Follows taken next) (follows' : Follows taken' next')
    (first : Serves host known (levels space) s.engine)
    (second : Serves host known (levels space) t.engine) (turns : List (Side × Span)) (now : Span)
    (state : σ) :
    Raced known (levels space) taken taken'
      (interleave host turns ((answer (.ensureNamespace space) s).bind next)
        ((answer (.ensureNamespace space) t).bind next') now state) := by
  -- Both sessions are in phases that go together with what the catalog knows.
  let Race (p : Exchange (Except ε Unit × RestSession)) (given : List ((_ : Request) × Reply))
      (q : Exchange (Except ε Unit × RestSession)) (other : List ((_ : Request) × Reply))
      (state : σ) : Prop :=
    ∃ a b,
      At host known space s next (fun x => x.1 = .ok ()) (fun x => x.1 = .error taken) a given p ∧
      At host known space t next' (fun x => x.1 = .ok ()) (fun x => x.1 = .error taken') b other q ∧
      Together a b (known state)
  have firstTurn : ∀ p given q other now state, Race p given q other state →
      Race (p.turn host now state).rest (given ++ (p.turn host now state).given) q other
        (p.turn host now state).state := by
    rintro p given q other now state ⟨a, b, atFirst, atSecond, together⟩
    obtain ⟨a', moved, moves⟩ := atFirst.turn follows.accepted follows.rejected now state
    exact ⟨a', b, moved, atSecond, together.move moves⟩
  have secondTurn : ∀ p given q other now state, Race p given q other state →
      Race p given (q.turn host now state).rest (other ++ (q.turn host now state).given)
        (q.turn host now state).state := by
    rintro p given q other now state ⟨a, b, atFirst, atSecond, together⟩
    obtain ⟨b', moved, moves⟩ := atSecond.turn follows'.accepted follows'.rejected now state
    exact ⟨a, b', atFirst, moved, (together.symm.move moves).symm⟩
  obtain ⟨a, b, atFirst, atSecond, together⟩ := interleave_preserves firstTurn secondTurn turns now
    ⟨.asking, .asking, At.start first, At.start second, Together.start (known state)⟩
  exact Raced.of_phases atFirst atSecond together

end Race

def setUp (w : Workload) (s : RestSession) : Exchange (Except Failure Unit × RestSession) :=
  (w.start (.done (.ok ()))).translate answer s

def whenEnsured (w : Workload) :
    Except SessionError Unit × RestSession → Exchange (Except Failure Unit × RestSession)
  | (.error e, s) => .done (.error (.connection w.catalogUrl e), s)
  | (.ok (), s) => .act
    (.log ⟨.debug, Workload.origin, "namespace ready", [("namespace", .rendered w.space)]⟩)
    (.done (.ok (), s))

theorem setUp_eq (w : Workload) (s : RestSession) :
    setUp w s = (answer (.ensureNamespace w.space) s).bind (whenEnsured w) := by
  show (answer (.ensureNamespace w.space) s).bind _ = _
  congr 1
  funext answered
  obtain ⟨_ | _, t⟩ := answered <;> rfl

theorem follows_whenEnsured (w : Workload) :
    Follows (.connection w.catalogUrl spaceTaken) (whenEnsured w) :=
  ⟨fun _ => .act _ (.done rfl), fun _ => .done rfl⟩

/-- Two sessions make sure of one namespace, their requests in any order. It is there in the end,
but where both have tried to create it, the one that comes second fails, and with it the whole
workload. -/
theorem second_creation_fatal {host : Host Request (fun _ => Reply) σ} {known : σ → Prop}
    {w w' : Workload} {s t : RestSession} (same : w'.space = w.space)
    (first : Serves host known (levels w.space) s.engine)
    (second : Serves host known (levels w.space) t.engine) (turns : List (Side × Span)) (now : Span)
    (state : σ) :
    Raced known (levels w.space) spaceTaken spaceTaken
      (interleave host turns (answer (.ensureNamespace w.space) s)
        (answer (.ensureNamespace w.space) t) now state) ∧
    Raced known (levels w.space) (Failure.connection w.catalogUrl spaceTaken)
      (Failure.connection w'.catalogUrl spaceTaken)
      (interleave host turns (setUp w s) (setUp w' t) now state) := by
  constructor
  · have follows : Follows spaceTaken .done :=
      ⟨fun _ => .done rfl, fun _ => .done rfl⟩
    have raced := raced_of_serves follows follows first second turns now state
    rwa [bind_done, bind_done] at raced
  · rw [setUp_eq, setUp_eq, same]
    exact raced_of_serves (follows_whenEnsured w) (follows_whenEnsured w') first second turns now
      state

def spacesHost (address : Address) : Host Request (fun _ => Reply) (List String) :=
  fun r now spaces =>
    let (reply, server, events) := Network address Server.serve r now { spaces }
    (reply, server.spaces, events)

theorem localServes {r : Request} (reaches : r.reaches localAddress = true)
    (noToken : Server.endsLikeToken r.url = false)
    (other : Server.segments r.url ≠ Server.basePath ++ ["config"]) (now : Span)
    (spaces : List String) :
    spacesHost localAddress r now spaces =
      (((Server.routed { spaces } r).1).to r, (Server.routed { spaces } r).2.spaces, []) := by
  simp only [spacesHost, Network]
  rw [if_pos reaches]
  simp only [Server.serve, ServerFault.reply?, Server.reply]
  rw [if_neg (by simp [noToken]), if_neg (by simp), if_neg other]

def localLink : EngineLink := ⟨(Engine.ofConfig localConfig).properties, none⟩

theorem localLink_keeps :
    Keeps (spacesHost localAddress) ("my_namespace" ∈ ·) (levels "my_namespace") localLink where
  checked := by
    refine ⟨⟨.engine, .head, localUrl ["v1", "namespaces", "my_namespace"] none, none, .empty⟩, ?_,
      fun now spaces => ?_⟩
    · have read : Url.ofText (localLink.properties.below
          ["namespaces", EngineLink.spaceText (levels "my_namespace")]) =
          .ok (localUrl ["v1", "namespaces", "my_namespace"] none) := by decide +kernel
      rw [EngineLink.spaceCheck?, EngineLink.request?, read]
      rfl
    · have route : Server.route? { spaces } (localUrl ["v1", "namespaces", "my_namespace"] none) =
          some ["namespaces", "my_namespace"] := by
        show Server.route? {} _ = _
        decide +kernel
      have name : Server.spaceName "my_namespace" = "my_namespace" := by decide +kernel
      rw [localServes (by decide +kernel) (by decide +kernel) (by decide +kernel)]
      simp only [Server.routed, route, name]
      by_cases here : "my_namespace" ∈ spaces
      · rw [if_pos here]
        exact ⟨⟨204, _, rfl, fun _ => .inr rfl, fun absent => absurd here absent⟩, trivial⟩
      · rw [if_neg here]
        exact ⟨⟨404, _, rfl, fun known => absurd known here, fun _ => rfl⟩, trivial⟩
  created := by
    refine ⟨⟨.engine, .post, localUrl ["v1", "namespaces"] none, none,
      .space (levels "my_namespace")⟩, ?_, fun now spaces => ?_⟩
    · have read : Url.ofText (localLink.properties.below ["namespaces"]) =
          .ok (localUrl ["v1", "namespaces"] none) := by decide +kernel
      rw [EngineLink.spaceCreation?, EngineLink.request?, read]
      rfl
    · have route : Server.route? { spaces } (localUrl ["v1", "namespaces"] none) =
          some ["namespaces"] := by
        show Server.route? {} _ = _
        decide +kernel
      have name : ".".intercalate (levels "my_namespace") = "my_namespace" := by decide +kernel
      rw [localServes (by decide +kernel) (by decide +kernel) (by decide +kernel)]
      simp only [Server.routed, route, Server.addSpace, name]
      by_cases here : "my_namespace" ∈ spaces
      · rw [if_pos here]
        exact ⟨⟨409, _, rfl, fun _ => rfl, fun absent => absurd here absent⟩, here⟩
      · rw [if_neg here]
        exact ⟨⟨200, _, rfl, fun known => absurd known here, fun _ => by decide +kernel⟩, by simp⟩

def propertiesRequest : Request :=
  ⟨.engine, .get, localUrl ["v1", "config"] (some "warehouse=demo"), none, .empty⟩

theorem localSession_linking :
    ∃ next, localSession.engine.linking = .call propertiesRequest next ∧
      next (Server.properties {}) = .done (.ok localLink) := by
  have asked : EngineLink.request? ⟨localSession.engine.properties, none⟩ .get
      (EngineLink.propertiesAddress localSession.engine.properties) .empty =
      some propertiesRequest := by
    have read : Url.ofText (EngineLink.propertiesAddress localSession.engine.properties) =
        .ok propertiesRequest.url := by decide +kernel
    rw [EngineLink.request?, read]
    rfl
  have learned : EngineLink.received EngineLink.readProperties (Server.properties {}) =
      .ok ([], []) := by decide +kernel
  have merged : localSession.engine.properties.merged [] [] = localLink.properties := by
    decide +kernel
  have token : EngineLink.obtainToken localSession.engine.properties = .done (.ok none) := rfl
  show ∃ next, EngineLink.establish localSession.engine.properties = _ ∧ _
  simp only [EngineLink.establish, token, Exchange.andThen, Program.bind,
    EngineLink.ask_of_request asked]
  refine ⟨_, rfl, ?_⟩
  simp only [learned, merged]
  rfl

theorem localSession_served :
    Serves (spacesHost localAddress) ("my_namespace" ∈ ·) (levels "my_namespace")
      localSession.engine := by
  have reply (now : Span) (spaces : List String) :
      spacesHost localAddress propertiesRequest now spaces =
        (Server.properties {}, spaces, []) := by
    simp only [spacesHost, Network]
    rw [if_pos (by decide +kernel)]
    simp only [Server.serve, ServerFault.reply?, Server.reply]
    rw [if_neg (by decide +kernel), if_neg (by simp), if_pos (by decide +kernel)]
    rfl
  obtain ⟨next, asks, learned⟩ := localSession_linking
  rw [Serves, asks]
  refine .call (fun now spaces => by rw [reply]) fun now spaces => ?_
  rw [reply, learned]
  exact .done ⟨localLink, rfl, localLink_keeps⟩

/-- Both sessions learn of the catalog and check for the namespace before one of them creates it. -/
def checksFirst : List (Side × Span) :=
  [(.first, ⟨0⟩), (.first, ⟨0⟩), (.second, ⟨0⟩), (.second, ⟨0⟩)]

theorem new_sessions_raced :
    let host := spacesHost localAddress
    let known (spaces : List String) := "my_namespace" ∈ spaces
    let w := localConfig.workload
    Serves host known (levels w.space) localSession.engine ∧
      Raced known (levels w.space) spaceTaken spaceTaken
        (interleave host checksFirst (answer (.ensureNamespace w.space) localSession)
          (answer (.ensureNamespace w.space) localSession) ⟨0⟩ []) ∧
      Raced known (levels w.space) (Failure.connection w.catalogUrl spaceTaken)
        (Failure.connection w.catalogUrl spaceTaken)
        (interleave host checksFirst (setUp w localSession) (setUp w localSession) ⟨0⟩ []) :=
  ⟨localSession_served, second_creation_fatal rfl localSession_served localSession_served _ _ _⟩

/-- A namespace that another has just created is a failure of the connection. -/
theorem namespace_race_lost :
    let host := spacesHost localAddress
    let w := localConfig.workload
    let calls := interleave host checksFirst (answer (.ensureNamespace w.space) localSession)
      (answer (.ensureNamespace w.space) localSession) ⟨0⟩ []
    let setUps := interleave host checksFirst (setUp w localSession) (setUp w localSession) ⟨0⟩ []
    calls.first.result.1 = .ok () ∧
      calls.second.result.1 =
        .error (.catalog "Unexpected => Tried to create a namespace that already exists") ∧
      setUps.first.result.1 = .ok () ∧
      setUps.second.result.1 = .error (.connection "http://[::1]:8181/catalog"
        (.catalog "Unexpected => Tried to create a namespace that already exists")) := by
  decide +kernel

end RestSession

end CatalogMigration
