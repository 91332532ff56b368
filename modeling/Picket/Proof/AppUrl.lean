import Picket.AppUrl

/-!
# Who sets the URL

A URL that is not local stays as it is. A local one is replaced before the session is looked at, so
that the last thing a refused request does is to say which URL the hub has.
-/

namespace Picket

open Gather

section Urls

variable (lib : NetLib) {h : HubSettings}

/-! ### A URL that is not local -/

theorem middleware_not_local (hlocal : isLocalURL lib h.appURL = false) (e : Request) :
    (middleware lib h e).1 = h := by
  simp only [middleware, hlocal, Bool.false_eq_true, if_false]

theorem handleAll_not_local (hlocal : isLocalURL lib h.appURL = false) (es : List Request) :
    handleAll lib h es = h := by
  induction es with
  | nil => rfl
  | cons e es ih => rwa [handleAll, List.foldl_cons, middleware_not_local lib hlocal]

/-! ### A local URL -/

theorem middleware_local (hlocal : isLocalURL lib h.appURL = true) (e : Request) :
    (middleware lib h e).1.appURL = trimSuffix (requestBaseURL lib e) "/" := by
  simp only [middleware, hlocal, if_true, setAppURL]

def plainRequest (host : String) : Request where
  path := "/"
  host := host

theorem requestBaseURL_plainRequest (host : String) :
    requestBaseURL lib (plainRequest host) = requestBaseURL lib (plainRequest "") ++ host := by
  simp only [requestBaseURL, plainRequest, if_true, String.append_empty]
  congr 1

theorem not_session_plainRequest (host passwordHash : String) :
    hasDashboardSession (plainRequest host).cookie passwordHash = false := by
  simp [hasDashboardSession, plainRequest, splitAt, Gather.trimSpace]

theorem trimSuffix_slash (s : String) {c : Char} (hc : c ≠ '/') :
    trimSuffix (s ++ String.singleton c) "/" = s ++ String.singleton c := by
  have hsuffix : hasSuffix (s ++ String.singleton c) "/" = false := by
    simp [hasSuffix, List.isSuffixOf, List.isPrefixOf, hc.symm]
  rw [trimSuffix, hsuffix, if_neg Bool.false_ne_true]

theorem plainRequest_ne (hlocal : isLocalURL lib h.appURL = true) :
    (middleware lib h (plainRequest (String.singleton 'a'))).1.appURL ≠
      (middleware lib h (plainRequest (String.singleton 'b'))).1.appURL := by
  rw [middleware_local lib hlocal, middleware_local lib hlocal,
    requestBaseURL_plainRequest lib (String.singleton 'a'),
    requestBaseURL_plainRequest lib (String.singleton 'b'),
    trimSuffix_slash _ (by decide), trimSuffix_slash _ (by decide)]
  intro heq
  have hlist := congrArg String.toList heq
  simp at hlist

/-- **Requests without a session are irrelevant exactly where the configured URL is not local.** -/
theorem unauthenticatedIrrelevant_iff (h : HubSettings) :
    UnauthenticatedIrrelevant lib h ↔ isLocalURL lib h.appURL = false := by
  constructor
  · intro hirrelevant
    by_contra hlocal
    rw [Bool.not_eq_false] at hlocal
    have hsame : authenticated h [plainRequest (String.singleton 'a')] =
        authenticated h [plainRequest (String.singleton 'b')] := by
      simp only [authenticated, List.filter_cons, not_session_plainRequest, Bool.false_eq_true,
        if_false, List.filter_nil]
    exact plainRequest_ne lib hlocal (hirrelevant _ _ hsame).1
  · intro hlocal es es' _
    rw [handleAll_not_local lib hlocal, handleAll_not_local lib hlocal]
    exact ⟨rfl, rfl, fun _ _ => rfl⟩

end Urls

/-- URLs that have a host and maybe a port. -/
def simpleUrls : NetLib where
  toLower := Char.toLower
  hostname rawURL :=
    some (String.ofList (((rawURL.toList.dropWhile (· ≠ '/')).drop 2).takeWhile
      fun c => c ≠ ':' ∧ c ≠ '/'))
  parseIP host := if host = "127.0.0.1" then some true else none

/-- The hub is configured with a local URL and has a password. -/
def localHub : HubSettings where
  appURL := "http://localhost:8090"
  dashboardPasswordHash := "5e88"

/-- A request that is refused sets the URL, and what is generated later has it. -/
theorem localHub_not_irrelevant :
    (middleware simpleUrls localHub { path := "/api/picket/info", host := "evil.example" }).2 =
        .unauthorized ∧
      ¬ UnauthenticatedIrrelevant simpleUrls localHub := by
  refine ⟨by decide +kernel, fun hirrelevant => ?_⟩
  have hsame : authenticated localHub [{ path := "/api/picket/info", host := "evil.example" }] =
      authenticated localHub [] := by
    have hsession : hasDashboardSession "" localHub.dashboardPasswordHash = false := by
      decide +kernel
    simp only [authenticated, List.filter_cons, hsession, Bool.false_eq_true, if_false,
      List.filter_nil]
  have hequal := (hirrelevant _ _ hsame).1
  revert hequal
  decide +kernel

end Picket
