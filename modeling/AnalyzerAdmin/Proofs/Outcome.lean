import AnalyzerAdmin.Proofs.Request

/-!
# What sessions come to

The exact result of a session and the exchanges that it makes behind others. A question for a text
or for a value makes one request, or none if none can be made, and the reply decides what it comes
to. In sequence a session goes on behind a result and ends at the first failure.
-/

namespace AnalyzerAdmin

open Dialogue

namespace Reply

def text (url : Url) : Reply → Except Failure String
  | .failed fault => .error (.http (.unsent url.render fault))
  | .answer status body complete =>
    if Status.isRejection status then .error (.http (.rejected status url.render))
    else if Status.isBodiless status then .ok ""
    else if complete then .ok (Text.decode body)
    else .error (.http .brokenBody)

def json (url : Url) (reply : Reply) : Except Failure Json :=
  reply.text url >>= fun text => (Json.read text).mapError fun error => .body (.json error)

def decoded (body : List UInt8 × Bool) : Except Failure String :=
  if body.2 then .ok (Text.decode body.1) else .error (.http .brokenBody)

theorem text_eq (url : Url) (reply : Reply) :
    reply.text url = ((Session.answer url reply).mapError .http >>= decoded) := by
  cases reply with
  | failed fault => rfl
  | answer status body complete =>
    simp only [text, Session.answer]
    split_ifs with hrejected hbodiless hcomplete
    · rfl
    · rfl
    · exact (if_pos hcomplete).symm
    · exact (if_neg hcomplete).symm

end Reply

/-- What an errand brings behind some exchanges: the request that it makes, if one can be made, and
what its reply comes to. -/
inductive Errand.Brings {α : Type} (e : Errand) (server : Server)
    (value : Url → Reply → Except Failure α) (before : List (Exchange Request Reply)) (time : Nat) :
    List (Exchange Request Reply) → Except Failure α → Prop
  | unmade {fault : HttpError} : e.request = .error fault →
      Brings e server value before time [] (.error (.http fault))
  | asked {q : Request} : e.request = .ok q →
      Brings e server value before time [⟨q, server before q, time⟩] (value q.url (server before q))

theorem Errand.exists_brings {α : Type} (e : Errand) (server : Server)
    (value : Url → Reply → Except Failure α) (before : List (Exchange Request Reply)) (time : Nat) :
    ∃ xs r, e.Brings server value before time xs r := by
  cases h : e.request with
  | error fault => exact ⟨_, _, .unmade h⟩
  | ok q => exact ⟨_, _, .asked h⟩

namespace Session

variable {α β : Type} {server : Server} {before xs ys : List (Exchange Request Reply)} {time : Nat}

/-- A session makes some exchanges behind others and has a result, and no time passes. -/
def Comes (server : Server) (s : Session α) (before : List (Exchange Request Reply)) (time : Nat)
    (xs : List (Exchange Request Reply)) (r : Except Failure α) : Prop :=
  ∀ events, ∃ events', s.run.run server ⟨before, time, events⟩ = (r, ⟨before ++ xs, time, events'⟩)

namespace Comes

variable {s : Session α} {f : α → Session β} {a : α} {r : Except Failure α} {r' : Except Failure β}
  {failure : Failure}

theorem ofExcept (r : Except Failure α) : Comes server (ofExcept r) before time [] r := by
  intro events
  exact ⟨events, by rw [List.append_nil]; rfl⟩

theorem log (level : Log.Level) (message : String) (values : List (String × String)) :
    Comes server (log level message values) before time [] (.ok ()) := by
  intro events
  exact ⟨_, by rw [List.append_nil]; rfl⟩

theorem seq (h : Comes server s before time xs (.ok a))
    (hf : Comes server (f a) (before ++ xs) time ys r') :
    Comes server (s >>= f) before time (xs ++ ys) r' := by
  intro events
  obtain ⟨events₁, h₁⟩ := h events
  obtain ⟨events₂, h₂⟩ := hf events₁
  exact ⟨events₂, by rw [run_seq_ok server f h₁, h₂, List.append_assoc]⟩

theorem stop (h : Comes server s before time xs (.error failure)) :
    Comes server (s >>= f) before time xs (.error failure) := by
  intro events
  obtain ⟨events₁, h₁⟩ := h events
  exact ⟨events₁, run_seq_error server f h₁⟩

theorem behind (h : Comes server s before time [] (.ok a))
    (hf : Comes server (f a) before time ys r') : Comes server (s >>= f) before time ys r' := by
  rw [← List.append_nil before] at hf
  exact h.seq hf

theorem last (h : Comes server s before time xs (.ok a))
    (hf : Comes server (f a) (before ++ xs) time [] r') :
    Comes server (s >>= f) before time xs r' := by
  have hseq := h.seq hf
  rwa [List.append_nil] at hseq

theorem quiet {g : α → Except Failure β} (h : Comes server s before time xs r)
    (hf : ∀ a, Comes server (f a) (before ++ xs) time [] (g a)) :
    Comes server (s >>= f) before time xs (r >>= g) := by
  cases r with
  | error failure => exact h.stop
  | ok a => exact h.last (hf a)

end Comes

theorem Comes.made_eq {s : Session α} {t : Transcript Request Reply} {r : Except Failure α}
    (h : Comes server s t.exchanges t.clock xs r) :
    made server s.run t = xs ∧ (s.run.run server t).1 = r := by
  obtain ⟨events, hrun⟩ := h t.events
  have ht : s.run.run server t = (r, ⟨t.exchanges ++ xs, t.clock, events⟩) := hrun
  refine ⟨made_eq_of_exchanges server ?_, ?_⟩ <;> rw [ht]

theorem comes_request {e : Errand} {q : Request} (h : e.request = .ok q) :
    Comes server (request e.method e.url e.body) before time [⟨q, server before q, time⟩]
      ((answer q.url (server before q)).mapError .http) :=
  fun events => ⟨events, run_request_made server h ⟨before, time, events⟩⟩

theorem comes_request_unmade {e : Errand} {fault : HttpError} (h : e.request = .error fault) :
    Comes server (request e.method e.url e.body) before time [] (.error (.http fault)) := by
  intro events
  rw [List.append_nil]
  exact ⟨events, run_request_unmade server h ⟨before, time, events⟩⟩

theorem comes_getText {url : String} {r : Except Failure String}
    (h : (⟨.get, url, none⟩ : Errand).Brings server Reply.text before time xs r) :
    Comes server (getText url) before time xs r := by
  have hdecoded (before : List (Exchange Request Reply)) (body : List UInt8 × Bool) :
      Comes server (if body.2 then pure (Text.decode body.1) else throw (.http .brokenBody))
        before time [] (Reply.decoded body) := by
    rw [Reply.decoded]
    split_ifs
    · exact .ofExcept _
    · exact .ofExcept _
  refine (Comes.log .debug "GET" [("url", url)]).behind ?_
  cases h with
  | unmade h => exact (comes_request_unmade h).stop
  | asked h =>
    rw [Reply.text_eq]
    exact (comes_request h).quiet (hdecoded _)

theorem comes_getJson {url : String} {r : Except Failure Json}
    (h : (⟨.get, url, none⟩ : Errand).Brings server Reply.json before time xs r) :
    Comes server (getJson url) before time xs r := by
  cases h with
  | unmade h => exact (comes_getText (.unmade h)).stop
  | asked h => exact (comes_getText (.asked h)).quiet fun _ => .ofExcept _

end Session

end AnalyzerAdmin
