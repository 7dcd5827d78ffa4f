import Mathlib
import SelectGraph.Http.Cors

/-!
# Replies to other origins in caches

A cache that is shared may give the reply to one request to another one.  Where a policy lists origins,
a reply with a permission says that it varies with the origin; a policy for every origin gives the same
permission to all.
-/

namespace SelectGraph.Http

open List

namespace Headers

variable {headers first second : Headers} {name other value : String}

theorem lookup_filter (keep : String → Bool) (name : String)
    (fields : List (String × List String)) :
    (fields.filter fun field => keep field.1).lookup name =
      if keep name then fields.lookup name else none := by
  induction fields with
  | nil => simp
  | cons field fields ih =>
    obtain ⟨key, values⟩ := field
    by_cases same : name = key
    · subst same
      cases kept : keep name <;> simp [kept, ih]
    · have skipped : (name == key) = false := by simpa using same
      cases kept : keep key <;> simp [lookup_cons, kept, skipped, ih]

theorem values_put (headers : Headers) (name other : String) (values : List String) :
    (⟨(headers.erase name).fields ++ [(canonicalName name, values)]⟩ : Headers).values other =
      if canonicalName other = canonicalName name then values else headers.values other := by
  rw [Headers.values, erase, lookup_append,
    lookup_filter (fun key => key != canonicalName name)]
  by_cases same : canonicalName other = canonicalName name
  · simp [same]
  · have skipped : (canonicalName other == canonicalName name) = false := by simpa using same
    simp [same, lookup_cons, skipped, Headers.values]

@[simp]
theorem values_set (headers : Headers) (name value other : String) :
    (headers.set name value).values other =
      if canonicalName other = canonicalName name then [value] else headers.values other :=
  values_put ..

@[simp]
theorem values_add (headers : Headers) (name value other : String) :
    (headers.add name value).values other =
      if canonicalName other = canonicalName name then headers.values name ++ [value]
      else headers.values other :=
  values_put ..

theorem values_setPresent_of_ne (distinct : canonicalName other ≠ canonicalName name) :
    (headers.setPresent name value).values other = headers.values other := by
  rw [setPresent]
  split
  · rfl
  · rw [values_set, if_neg distinct]

@[simp]
theorem values_empty (name : String) : ({} : Headers).values name = [] := rfl

@[simp]
theorem empty_merge (headers : Headers) : ({} : Headers).merge headers = headers := rfl

/-- A field that is not in the second has the values of the first in both together. -/
theorem values_merge_of_absent (absent : ∀ field ∈ second.fields, field.1 ≠ canonicalName name) :
    (first.merge second).values name = first.values name := by
  have missing : second.fields.lookup (canonicalName name) = none := by
    rw [lookup_eq_none_iff]
    intro field mem
    simpa using (absent field mem).symm
  have kept : second.fields.any (·.1 == canonicalName name) = false := by
    simpa using absent
  rw [values, merge, lookup_append, missing, Option.or_none,
    lookup_filter (fun key => !second.fields.any (·.1 == key)), kept]
  rfl

/-! ## Permissions -/

def isPermission (name : String) : Bool :=
  Text.startsWith name "Access-Control-"

/-- The fields that tell other origins what they may do. -/
def permissions (headers : Headers) : List (String × List String) :=
  headers.fields.filter fun field => isPermission field.1

/-- Nothing is said about other origins, nor about what the reply varies with. -/
def Silent (headers : Headers) : Prop :=
  ∀ field ∈ headers.fields, isPermission field.1 = false ∧ field.1 ≠ "Vary"

theorem Silent.permissions_eq_nil (silent : headers.Silent) : headers.permissions = [] := by
  rw [permissions, filter_eq_nil_iff]
  intro field mem
  simp [(silent field mem).left]

theorem permissions_merge (silent : second.Silent) :
    (first.merge second).permissions = first.permissions := by
  have none := silent.permissions_eq_nil
  rw [permissions] at none
  rw [permissions, merge, filter_append, none, append_nil, filter_filter,
    permissions]
  refine filter_congr fun field _ => ?_
  cases permits : isPermission field.1 with
  | false => rfl
  | true =>
    have absent : second.fields.any (·.1 == field.1) = false := by
      rw [any_eq_false]
      intro given mem same
      have same : given.1 = field.1 := by simpa using same
      have refused := (silent given mem).left
      rw [same, permits] at refused
      cases refused
    rw [absent]
    rfl

theorem values_merge_of_silent (silent : second.Silent)
    (named : isPermission (canonicalName name) = true ∨ canonicalName name = "Vary") :
    (first.merge second).values name = first.values name := by
  refine values_merge_of_absent fun field mem same => ?_
  obtain ⟨unpermitted, unvaried⟩ := silent field mem
  rcases named with permits | varies
  · rw [same, permits] at unpermitted
    cases unpermitted
  · exact unvaried (same.trans varies)

end Headers

namespace CorsSettings

variable {cfg : CorsSettings} {origin : String}

/-- What a request gets where `next` answers those that go on. -/
def answer (cfg : CorsSettings) (next : Request → Reply) (request : Request) : Reply :=
  Id.run (cfg.wrap request (pure (next request)))

/-- What is added to the reply to an allowed origin. -/
def granted (cfg : CorsSettings) (method origin : String) : Headers :=
  if method = "OPTIONS" then cfg.preflight (cfg.permission origin)
  else cfg.permission origin

theorem values_preflight {headers : Headers} {name : String}
    (methods : canonicalName name ≠ canonicalName "Access-Control-Allow-Methods")
    (others : canonicalName name ≠ canonicalName "Access-Control-Allow-Headers")
    (age : canonicalName name ≠ canonicalName "Access-Control-Max-Age") :
    (cfg.preflight headers).values name = headers.values name := by
  rw [preflight, Headers.values_setPresent_of_ne age, Headers.values_setPresent_of_ne others,
    Headers.values_setPresent_of_ne methods]

theorem values_granted {method name : String}
    (methods : canonicalName name ≠ canonicalName "Access-Control-Allow-Methods")
    (others : canonicalName name ≠ canonicalName "Access-Control-Allow-Headers")
    (age : canonicalName name ≠ canonicalName "Access-Control-Max-Age") :
    (cfg.granted method origin).values name = (cfg.permission origin).values name := by
  rw [granted]
  split
  · exact values_preflight methods others age
  · rfl

/-- The permission for a listed origin names what it varies with. -/
theorem granted_varies (listed : cfg.admitsAny = false) (method origin : String) :
    (cfg.granted method origin).values "Vary" = ["Origin"] := by
  rw [values_granted (by decide +kernel) (by decide +kernel) (by decide +kernel), permission, listed,
    Headers.values_setPresent_of_ne (by decide +kernel)]
  have distinct : canonicalName "Vary" ≠ canonicalName "Access-Control-Allow-Credentials" := by
    decide +kernel
  have unset : canonicalName "Vary" ≠ canonicalName "Access-Control-Allow-Origin" := by
    decide +kernel
  cases cfg.credentials <;> simp [distinct, unset]

/-- A policy for every origin grants the same to all of them. -/
theorem granted_any (anyOne : cfg.admitsAny = true) (method first second : String) :
    cfg.granted method first = cfg.granted method second := by
  have same : cfg.permission first = cfg.permission second := by
    simp only [permission, anyOne, if_true]
  rw [granted, granted, same]

/-- It names no origin and allows no credentials. -/
theorem granted_any_values (anyOne : cfg.admitsAny = true) (method origin : String) :
    (cfg.granted method origin).values "Access-Control-Allow-Origin" = ["*"] ∧
      (cfg.granted method origin).values "Access-Control-Allow-Credentials" = [] := by
  rw [values_granted (by decide +kernel) (by decide +kernel) (by decide +kernel),
    values_granted (by decide +kernel) (by decide +kernel) (by decide +kernel), permission, anyOne,
    Headers.values_setPresent_of_ne (by decide +kernel),
    Headers.values_setPresent_of_ne (by decide +kernel)]
  have distinct : canonicalName "Access-Control-Allow-Credentials" ≠
      canonicalName "Access-Control-Allow-Origin" := by
    decide +kernel
  simp [distinct]

section Answers

variable {next : Request → Reply} {request : Request}

theorem answer_refused (silent : ∀ request, (next request).headers.Silent)
    (refused : request.headers.get "Origin" = "" ∨
      cfg.admits (request.headers.get "Origin") = false) :
    (cfg.answer next request).headers.permissions = [] := by
  have quiet := (silent request).permissions_eq_nil
  rw [answer, wrap]
  split
  · exact quiet
  · next present =>
    rcases refused with missing | refused
    · simp [missing] at present
    · rw [refused]
      split
      · rfl
      · exact quiet

/-- The reply to an allowed origin carries what is granted to it, which nothing replaces. -/
theorem answer_allowed (enabled : cfg.enabled = true)
    (silent : ∀ request, (next request).headers.Silent)
    (present : request.headers.get "Origin" ≠ "")
    (allowed : cfg.admits (request.headers.get "Origin") = true) :
    ∃ others : Headers, others.Silent ∧ (cfg.answer next request).headers =
      (cfg.granted request.method (request.headers.get "Origin")).merge others := by
  rw [answer, wrap, granted, allowed, enabled, if_neg (by simpa using present)]
  by_cases asked : request.method = "OPTIONS"
  · exact ⟨{}, forall_mem_nil _, by simp [asked, Headers.merge]⟩
  · exact ⟨_, silent request, by simp [asked]⟩

theorem answer_permitted (enabled : cfg.enabled = true)
    (silent : ∀ request, (next request).headers.Silent)
    (permitted : (cfg.answer next request).headers.permissions ≠ []) :
    ∃ others : Headers, others.Silent ∧ (cfg.answer next request).headers =
      (cfg.granted request.method (request.headers.get "Origin")).merge others := by
  refine answer_allowed enabled silent (fun missing => ?_) ?_
  · exact permitted (answer_refused silent (.inl missing))
  · by_contra refused
    exact permitted (answer_refused silent (.inr (by simpa using refused)))

theorem answer_varies (enabled : cfg.enabled = true) (listed : cfg.admitsAny = false)
    (silent : ∀ request, (next request).headers.Silent)
    (permitted : (cfg.answer next request).headers.permissions ≠ []) :
    (cfg.answer next request).headers.values "Vary" = ["Origin"] := by
  obtain ⟨others, quiet, headers⟩ := answer_permitted enabled silent permitted
  rw [headers, Headers.values_merge_of_silent quiet (.inr (by decide +kernel)),
    granted_varies listed]

theorem answer_any (enabled : cfg.enabled = true) (anyOne : cfg.admitsAny = true)
    (silent : ∀ request, (next request).headers.Silent)
    (permitted : (cfg.answer next request).headers.permissions ≠ []) :
    (cfg.answer next request).headers.values "Access-Control-Allow-Origin" = ["*"] ∧
      (cfg.answer next request).headers.values "Access-Control-Allow-Credentials" = [] := by
  obtain ⟨others, quiet, headers⟩ := answer_permitted enabled silent permitted
  rw [headers, Headers.values_merge_of_silent quiet (.inl (by decide +kernel)),
    Headers.values_merge_of_silent quiet (.inl (by decide +kernel))]
  exact granted_any_values anyOne ..

/-- Under a policy for every origin, two requests that name one get the same permissions. -/
theorem permissions_any (enabled : cfg.enabled = true) (anyOne : cfg.admitsAny = true)
    (silent : ∀ request, (next request).headers.Silent) {first second : Request}
    (sameMethod : first.method = second.method) (firstNames : first.headers.get "Origin" ≠ "")
    (secondNames : second.headers.get "Origin" ≠ "") :
    (cfg.answer next first).headers.permissions =
      (cfg.answer next second).headers.permissions := by
  have allowed (origin : String) : cfg.admits origin = true := by
    simp [admits, anyOne]
  obtain ⟨others, quiet, headers⟩ := answer_allowed enabled silent firstNames (allowed _)
  obtain ⟨others', quiet', headers'⟩ := answer_allowed enabled silent secondNames (allowed _)
  rw [headers, headers', Headers.permissions_merge quiet, Headers.permissions_merge quiet',
    sameMethod, granted_any anyOne]

end Answers

/-- Two requests alike in their method, whose replies differ in what they permit.  Where origins are
listed, each reply that permits anything says that it varies with the origin.  Where every origin is
allowed, one request names none, and what the other may do names no origin and allows no credentials:
every origin has that permission. -/
theorem differing_permissions_vary (settings : CorsSettings) (enabled : settings.enabled = true)
    (next : Request → Reply) (silent : ∀ request, (next request).headers.Silent)
    (first second : Request) (sameMethod : first.method = second.method)
    (different : (settings.answer next first).headers.permissions ≠
      (settings.answer next second).headers.permissions) :
    (settings.admitsAny = false → ∀ request ∈ [first, second],
        (settings.answer next request).headers.permissions ≠ [] →
          (settings.answer next request).headers.values "Vary" = ["Origin"]) ∧
      (settings.admitsAny = true →
        (first.headers.get "Origin" = "" ∨ second.headers.get "Origin" = "") ∧
          ∀ request ∈ [first, second],
            (settings.answer next request).headers.permissions ≠ [] →
              (settings.answer next request).headers.values "Access-Control-Allow-Origin" = ["*"] ∧
                (settings.answer next request).headers.values
                  "Access-Control-Allow-Credentials" = []) := by
  constructor
  · intro listed request _ permitted
    exact answer_varies enabled listed silent permitted
  · intro anyOne
    refine ⟨?_, fun request _ permitted => answer_any enabled anyOne silent permitted⟩
    by_contra! named
    exact different (permissions_any enabled anyOne silent sameMethod named.left named.right)

/-! Two listed pages, and a policy for every page with a request that names none. -/

def fromPage (origin : String) : Request where
  method := "GET"
  url := {}
  headers := Headers.setPresent {} "Origin" origin
  content? := none

def listedPages : CorsSettings where
  enabled := true
  origins := ["https://a.example", "https://b.example"]
  credentials := true

def everyPage : CorsSettings where
  enabled := true
  origins := ["*"]

def plainReply (_ : Request) : Reply := { status := 200, body := "next" }

theorem differing_permissions_vary_listed :
    (listedPages.answer plainReply (fromPage "https://a.example")).headers.values "Vary" = ["Origin"] ∧
      (listedPages.answer plainReply (fromPage "https://b.example")).headers.values "Vary" =
        ["Origin"] := by
  have vary := (differing_permissions_vary listedPages rfl plainReply
    (fun _ => List.forall_mem_nil _) (fromPage "https://a.example") (fromPage "https://b.example") rfl
    (by decide +kernel)).left (by decide +kernel)
  exact ⟨vary _ (by simp) (by decide +kernel), vary _ (by simp) (by decide +kernel)⟩

/-- A request without an origin gets no permission from a policy for every origin, any other request
does, and neither reply says that it varies. -/
theorem everyPage_not_varying :
    (everyPage.answer plainReply (fromPage "https://a.example")).headers.permissions ≠
        (everyPage.answer plainReply (fromPage "")).headers.permissions ∧
      (everyPage.answer plainReply (fromPage "https://a.example")).headers.values "Vary" = [] ∧
      (everyPage.answer plainReply (fromPage "")).headers.values "Vary" = [] := by
  decide +kernel

end CorsSettings

end SelectGraph.Http
