import CatalogMigration.Proofs.Client.Requests
import CatalogMigration.Proofs.Rest.Calls
import CatalogMigration.Proofs.Table.Storable
import CatalogMigration.Server.Basic
import Mathlib.Data.List.Nodup

namespace CatalogMigration

open Program

namespace RestSession

variable {σ : Type}

def place (space : String) (t : Fixture) (s : RestSession) :
    Exchange (Except SessionError Unit × RestSession) :=
  bounded "create_or_replace_table"
    (do
      let schema ← Step.ofResult (storedSchema t.schema)
      Step.ofEngine (·.createTable (levels space) t.name schema)) s

def abandoned (s : RestSession) (e : ClientError) : SessionError :=
  s.interrupted "create_or_replace_table" (.client e)

theorem answer_create_eq (space : String) (t : Fixture) (s : RestSession) :
    answer (.create space t) s = (s.client.tableExists space t.name).bind fun
      | .error e => .done (.error (s.abandoned e), s)
      | .ok false => place space t s
      | .ok true =>
        .act (.log ⟨.debug, "migration_tests::session::rest", "purging existing table", []⟩)
          ((s.client.dropTable space t.name true).bind fun
            | .error e => .done (.error (s.abandoned e), s)
            | .ok () => place space t s) := by
  rw [answer, bounded, create, Step.bind_eq, Step.ofClient, bind_assoc, bind_assoc]
  congr 1
  funext found
  cases found with
  | error e => rfl
  | ok found =>
    cases found with
    | false => rfl
    | true =>
      simp only [Program.bind]
      rw [if_pos trivial, Step.bind_eq]
      simp only [Step.log, Program.bind]
      rw [Step.bind_eq, Step.ofClient, bind_assoc, bind_assoc]
      congr 2
      funext dropped
      cases dropped <;> rfl

theorem place_of_unstored {t : Fixture} {refusal : SessionError}
    (unstored : storedSchema t.schema = .error refusal) (space : String) (s : RestSession) :
    place space t s = .done (.error refusal, s) := by
  rw [place, bounded, Step.bind_eq, Step.ofResult, unstored]
  obtain ⟨_, _, _ | _⟩ := s <;> rfl

theorem unstored_of_unstorable {schema : TableSchema} (unstorable : schema.Unstorable) :
    ∃ refusal, storedSchema schema = .error refusal := by
  obtain ⟨fault, unstored⟩ := (FieldSchema.ofSchema_error_iff schema).mpr unstorable
  exact ⟨schemaError fault, by rw [storedSchema, unstored]; rfl⟩

/-- The requests of a creation that comes to nothing, the state they leave and the error it ends
with. A table that is found is purged, and only then, or if none is found, the schema is refused. -/
inductive Clearing (c : Client) (space table : String) (host : Host Request (fun _ => Reply) σ)
    (now : Span) (state : σ) (refusal : SessionError) :
    List ((_ : Request) × Reply) → σ → SessionError → Prop
  | unasked (nowhere : c.Nowhere space table) (e : SessionError) :
    Clearing c space table host now state refusal [] state e
  | left {url : Url} {reply : Reply} {after : σ} {events : List Event} {e : SessionError}
    (address : c.tableUrl space table = .ok url)
    (checked : host (c.request .head url) now state = (reply, after, events))
    (unfound : reply.succeeds = false) (missing : reply.misses = true → e = refusal) :
    Clearing c space table host now state refusal [⟨c.request .head url, reply⟩] after e
  | purged {url dropUrl : Url} {reply dropReply : Reply} {between after : σ}
    {events dropEvents : List Event} {e : SessionError}
    (address : c.tableUrl space table = .ok url)
    (checked : host (c.request .head url) now state = (reply, between, events))
    (found : reply.succeeds = true) (dropAddress : c.dropUrl space table true = .ok dropUrl)
    (dropped : host (c.request .delete dropUrl) now between = (dropReply, after, dropEvents))
    (accepted : dropReply.succeeds = true → e = refusal) :
    Clearing c space table host now state refusal
      [⟨c.request .head url, reply⟩, ⟨c.request .delete dropUrl, dropReply⟩] after e

/-- A table that cannot be stored is never created, and the creation ends with an error. Up to there
it has purged the table of that name, if there is one. -/
theorem unstorable_create_purges (host : Host Request (fun _ => Reply) σ) {t : Fixture}
    (unstorable : t.schema.Unstorable) (space : String) (s : RestSession) (now : Span) (state : σ) :
    let call := answer (.create space t) s
    let o := call.outcome host now state
    ∃ refusal e, storedSchema t.schema = .error refusal ∧ o.result = (.error e, s) ∧
      Clearing s.client space t.name host now state refusal (answers (call.steps host now state))
        o.state e := by
  obtain ⟨refusal, unstored⟩ := unstored_of_unstorable unstorable
  rw [answer_create_eq]
  simp only [place_of_unstored unstored]
  rcases s.client.nowhere_or space t.name with nowhere | ⟨url, address, web⟩
  · obtain ⟨e, none⟩ := Client.tableExists_of_nowhere nowhere
    rw [none]
    exact ⟨refusal, _, unstored, rfl, .unasked nowhere _⟩
  rw [Client.tableExists_of_web address web, Program.bind]
  rcases checked : host (s.client.request .head url) now state with ⟨reply, between, events⟩
  simp only [Program.bind, Program.outcome, Program.steps, checked]
  rcases Client.existence_cases (s.client.request .head url).url reply with
    ⟨found, read⟩ | ⟨unfound, missing, read⟩ | ⟨unfound, other, e, read⟩
  · have dropAddress := Client.dropUrl_of_address address true
    rcases dropped : host (s.client.dropRequest url true) now between with
      ⟨dropReply, after, dropEvents⟩
    rw [Client.dropTable_of_web address web]
    simp only [read, Program.bind, Program.outcome, Program.steps, Act.after, dropped]
    rcases Client.dropped_cases space t.name (s.client.dropRequest url true).url dropReply with
      ⟨accepted, read⟩ | ⟨refused, e, read⟩
    · simp only [read, Program.outcome, Program.steps]
      exact ⟨refusal, _, unstored, rfl, .purged address checked found dropAddress dropped
        fun _ => rfl⟩
    · simp only [read, Program.outcome, Program.steps]
      exact ⟨refusal, _, unstored, rfl, .purged address checked found dropAddress dropped
        fun accepted => by simp [refused] at accepted⟩
  · simp only [read, Program.outcome, Program.steps]
    exact ⟨refusal, _, unstored, rfl, .left address checked unfound fun _ => rfl⟩
  · simp only [read, Program.outcome, Program.steps]
    exact ⟨refusal, _, unstored, rfl, .left address checked unfound fun missing => by
      simp [other] at missing⟩

def unstorableTable : Fixture := ⟨"my_table_0", .maintained, ⟨[⟨"id", .other "double", true⟩]⟩⟩

def serverWithTable : Server where
  spaces := ["my_namespace"]
  tables := Assoc.empty.insert ⟨"my_namespace", "my_table_0"⟩
    ⟨⟨[⟨1, "id", .primitive .long, false⟩]⟩,
      [⟨[⟨"id", .long, true⟩], [.longs [some 1]], 1⟩]⟩

theorem unstorable_replacement :
    let host := Network localAddress Server.serve
    let call := answer (.create "my_namespace" unstorableTable) localSession
    let o := call.outcome host ⟨0⟩ serverWithTable
    unstorableTable.schema.Unstorable ∧ ∃ refusal e,
      storedSchema unstorableTable.schema = .error refusal ∧
      o.result = (.error e, localSession) ∧
      Clearing localSession.client "my_namespace" "my_table_0" host ⟨0⟩ serverWithTable refusal
        (answers (call.steps host ⟨0⟩ serverWithTable)) o.state e :=
  have unstorable : unstorableTable.schema.Unstorable :=
    .inl ⟨_, List.mem_singleton.mpr rfl, _, rfl⟩
  ⟨unstorable, unstorable_create_purges (Network localAddress Server.serve) unstorable _ _ _ _⟩

/-- The table that was to be replaced is gone with its row, and there is no other in its place. -/
theorem existing_table_destroyed :
    let key : TableKey := ⟨"my_namespace", "my_table_0"⟩
    let o := (answer (.create "my_namespace" unstorableTable) localSession).outcome
      (Network localAddress Server.serve) ⟨0⟩ serverWithTable
    (serverWithTable.tables.get? key).map (·.commits.length) = some 1 ∧
      o.result.1 = .error (.unexpectedData "cannot create column id of type double") ∧
      (o.state.tables.get? key).isNone ∧ o.state.drops = [⟨key, "purgeRequested=true"⟩] := by
  decide +kernel

end RestSession

end CatalogMigration
