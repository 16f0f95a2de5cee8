import AnalyzerAdmin.Client.Metrics
import AnalyzerAdmin.Client.Topology
import AnalyzerAdmin.Proofs.Dialogue
import Mathlib.Tactic.SplitIfs

/-!
# One request

An errand is a request whose URL is still text. A session is `Single` if it makes this one request,
or none where the URL cannot be asked, and then has a result that is a function of the reply. Asking
for a text, reading a state, switching and fetching are all single.
-/

namespace AnalyzerAdmin

open Dialogue

structure Errand where
  method : Method
  url : String
  body : Option String := none

def Errand.request (e : Errand) : Except HttpError Request :=
  (Session.checkUrl e.url).map fun target => ⟨e.method, target.1, e.body, target.2⟩

def Server.scripted (replies : List Reply) : Server := fun past _ =>
  replies.getD past.length (.failed .closed)

namespace Reply

/-- The body of an answer that does not reject the request, and whether it is complete. -/
def body? : Reply → Option (List UInt8 × Bool)
  | .answer status body complete =>
    if Status.isRejection status then none
    else some (if Status.isBodiless status then ([], true) else (body, complete))
  | .failed _ => none

def text? (reply : Reply) : Option String :=
  reply.body?.bind fun b => if b.2 then some (Text.decode b.1) else none

def json? (reply : Reply) : Option Json := reply.text?.bind fun text => (Json.read text).toOption

def state? (reply : Reply) (scope : Scope) : Option State :=
  reply.json?.bind fun json => (State.ofBody scope json).toOption

end Reply

namespace Session

variable {α β : Type} (server : Server)

theorem gives_ofExcept (r : Except Failure α) : Gives (ofExcept r) r.toOption :=
  ⟨fun _ _ => rfl, fun _ _ => rfl, fun _ _ => rfl⟩

theorem gives_mapError {ε : Type} (g : ε → Failure) (r : Except ε α) :
    Gives (ofExcept (r.mapError g)) r.toOption := by
  cases r with
  | error fault => exact gives_ofExcept _
  | ok a => exact gives_ofExcept _

theorem gives_log_seq {s : Session α} {o : Option α} (h : Gives s o) (level : Log.Level)
    (message : String) (values : List (String × String)) :
    Gives (log level message values >>= fun _ => s) o :=
  (Gives.tell _).seq fun _ => h

theorem toOption_answer (url : Url) (reply : Reply) :
    (answer url reply).toOption = reply.body? := by
  cases reply with
  | failed fault => rfl
  | answer status body complete =>
    simp only [answer, Reply.body?]
    split_ifs <;> rfl

theorem checkUrl_of_request_error {e : Errand} {fault : HttpError}
    (h : e.request = .error fault) : checkUrl e.url = .error fault := by
  cases hu : checkUrl e.url with
  | ok target => simp [Errand.request, hu, Except.map] at h
  | error fault' =>
    obtain rfl : fault' = fault := by simpa [Errand.request, hu, Except.map] using h
    rfl

theorem checkUrl_of_request_ok {e : Errand} {q : Request} (h : e.request = .ok q) :
    ∃ target, checkUrl e.url = .ok target ∧ ⟨e.method, target.1, e.body, target.2⟩ = q := by
  cases hu : checkUrl e.url with
  | error fault => simp [Errand.request, hu, Except.map] at h
  | ok target => exact ⟨target, rfl, by simpa [Errand.request, hu, Except.map] using h⟩

theorem run_request_unmade {e : Errand} {fault : HttpError} (h : e.request = .error fault)
    (t : Transcript Request Reply) :
    (request e.method e.url e.body).run.run server t = (.error (.http fault), t) := by
  simp only [request, checkUrl_of_request_error h]
  exact run_seq_error server _ rfl

theorem run_request_made {e : Errand} {q : Request} (h : e.request = .ok q)
    (t : Transcript Request Reply) :
    (request e.method e.url e.body).run.run server t =
      ((answer q.url (server t.exchanges q)).mapError .http,
        { t with exchanges := t.exchanges ++ [⟨q, server t.exchanges q, t.clock⟩] }) := by
  obtain ⟨target, hu, rfl⟩ := checkUrl_of_request_ok h
  simp only [request, hu]
  rfl

/-- One request at most, no time, and a result that the reply decides. -/
structure Single (e : Errand) (value : Reply → Option α) (s : Session α) : Prop where
  unmade : ∀ {fault}, e.request = .error fault → ∀ t,
    made server s.run t = [] ∧ (s.run.run server t).1.toOption = none
  asked : ∀ {q}, e.request = .ok q → ∀ t,
    made server s.run t = [⟨q, server t.exchanges q, t.clock⟩] ∧
      (s.run.run server t).1.toOption = value (server t.exchanges q)
  clock : ∀ t, (s.run.run server t).2.clock = t.clock

theorem single_request (e : Errand) :
    Single server e Reply.body? (request e.method e.url e.body) where
  unmade h t := by
    have hr := run_request_unmade server h t
    refine ⟨made_eq_of_exchanges server ?_, by rw [hr]; rfl⟩
    rw [hr, List.append_nil]
  asked {q} h t := by
    have hr := run_request_made server h t
    refine ⟨made_eq_of_exchanges server (by rw [hr]), ?_⟩
    rw [hr, ← toOption_answer q.url]
    cases answer q.url (server t.exchanges q) <;> rfl
  clock t := by
    cases h : e.request with
    | error fault => rw [run_request_unmade server h]
    | ok q => rw [run_request_made server h]

namespace Single

variable {server} {e : Errand} {value : Reply → Option α} {s : Session α}

theorem behind {d : Session β} {b : β} {f : β → Session α} (hd : Gives d (some b))
    (h : Single server e value (f b)) : Single server e value (d >>= f) := by
  have hrun (t : Transcript Request Reply) : ∃ t₁, d.run.run server t = (.ok b, t₁) ∧
      t₁.exchanges = t.exchanges ∧ t₁.clock = t.clock := by
    have hb := hd.result server t
    rcases hr : d.run.run server t with ⟨r, t₁⟩
    rw [hr] at hb
    cases r with
    | error _ => cases hb
    | ok _ =>
      cases hb
      exact ⟨t₁, rfl, by simpa [hr] using hd.exchanges server t,
        by simpa [hr] using hd.clock server t⟩
  constructor
  · intro fault he t
    obtain ⟨t₁, hr, -, -⟩ := hrun t
    rw [made_seq_ok server f hr, run_seq_ok server f hr, hd.made_eq_nil, List.nil_append]
    exact h.unmade he t₁
  · intro q he t
    obtain ⟨t₁, hr, hx, hc⟩ := hrun t
    rw [made_seq_ok server f hr, run_seq_ok server f hr, hd.made_eq_nil, List.nil_append,
      ← hx, ← hc]
    exact h.asked he t₁
  · intro t
    obtain ⟨t₁, hr, -, hc⟩ := hrun t
    rw [run_seq_ok server f hr, h.clock, hc]

theorem seq {f : α → Session β} {g : α → Option β} (h : Single server e value s)
    (hf : ∀ a, Gives (f a) (g a)) :
    Single server e (fun reply => (value reply).bind g) (s >>= f) := by
  have hmade (t : Transcript Request Reply) :
      made server (s >>= f).run t = made server s.run t ∧
        ((s >>= f).run.run server t).1.toOption = (s.run.run server t).1.toOption.bind g := by
    rcases hr : s.run.run server t with ⟨r, t₁⟩
    cases r with
    | error fault =>
      rw [made_seq_error server f hr, run_seq_error server f hr]
      exact ⟨rfl, rfl⟩
    | ok a =>
      rw [made_seq_ok server f hr, run_seq_ok server f hr, (hf a).made_eq_nil, (hf a).result,
        List.append_nil]
      exact ⟨rfl, rfl⟩
  constructor
  · intro fault he t
    rw [(hmade t).1, (hmade t).2, (h.unmade he t).1, (h.unmade he t).2]
    exact ⟨rfl, rfl⟩
  · intro q he t
    rw [(hmade t).1, (hmade t).2, (h.asked he t).1, (h.asked he t).2]
    exact ⟨rfl, rfl⟩
  · intro t
    have hc := h.clock t
    rcases hr : s.run.run server t with ⟨r, t₁⟩
    rw [hr] at hc
    cases r with
    | error fault => rw [run_seq_error server f hr, hc]
    | ok a => rw [run_seq_ok server f hr, (hf a).clock, hc]

end Single

theorem single_getText (url : String) :
    Single server ⟨.get, url, none⟩ Reply.text? (getText url) := by
  rw [getText]
  apply Single.behind (Gives.tell _)
  apply (single_request server ⟨.get, url, none⟩).seq
  rintro ⟨body, complete⟩
  cases complete with
  | true => exact .pure _
  | false => exact .throw _

theorem single_getJson (url : String) :
    Single server ⟨.get, url, none⟩ Reply.json? (getJson url) := by
  rw [getJson]
  exact (single_getText server url).seq fun text => gives_mapError _ (Json.read text)

end Session

end AnalyzerAdmin
