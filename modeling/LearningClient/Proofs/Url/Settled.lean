import LearningClient.Proofs.Client.Query
import LearningClient.Proofs.Url.Host
import LearningClient.Proofs.Url.Path

/-!
# The form of an address

What is read of an address of the web has each of its parts in the form in which
it is written (`Address.Settled`): whatever could not stand in a part has been
escaped, and a port is written only if it does not go without saying. The form
says nothing of how the parts were written when they were read, so whoever puts
an address together from parts of another has just to show that they have it.
-/

namespace LearningClient.Url

open LearningClient.Text

/-- Whether a scheme is one of the two of the web. -/
def IsWeb (scheme : List Char) : Prop := scheme = "http".toList ∨ scheme = "https".toList

/-- An address of the web as it is read, and as it is written. -/
structure Address.Settled (a : Address) : Prop where
  web : IsWeb a.scheme
  username : ∀ c ∈ a.username, inUserInfo c = false
  password : ∀ c ∈ a.password, inUserInfo c = false
  host : ∃ h, a.host = some h ∧ h.Settled
  port : ∀ p ∈ a.port, p ≤ 65535 ∧ defaultPort a.scheme ≠ some p
  path : ∃ ss, a.path = .segments ss ∧ ss ≠ [] ∧ ∀ s ∈ ss, IsSegment s
  query : ∀ q ∈ a.query, ∀ c ∈ q, inSpecialQuery c = false
  fragment : ∀ f ∈ a.fragment, ∀ c ∈ f, inFragment c = false

namespace IsWeb

variable {scheme : List Char} (web : IsWeb scheme)

include web

theorem isSpecial : isSpecial scheme = true := by
  rcases web with rfl | rfl <;> decide

theorem isFile : isFile scheme = false := by
  rcases web with rfl | rfl <;> decide

theorem querySet : querySet scheme = inSpecialQuery := by
  rw [Url.querySet, web.isSpecial]
  rfl

theorem splitScheme? (rest : List Char) :
    splitScheme? (scheme ++ ':' :: rest) = some (scheme, rest) := by
  rcases web with rfl | rfl <;> rfl

theorem visible : ∀ c ∈ scheme, 0x20 < c.toNat := by
  have all : scheme.all (fun c => 0x20 < c.toNat) = true := by
    rcases web with rfl | rfl <;> decide
  simpa using all

end IsWeb

/-! ## What is read -/

theorem settled_of_readUserInfo {cs username password rest : List Char}
    (read : readUserInfo true cs = .ok (username, password, rest)) :
    (∀ c ∈ username, inUserInfo c = false) ∧ ∀ c ∈ password, inUserInfo c = false := by
  unfold readUserInfo at read
  dsimp only at read
  split at read
  · cases read
    exact ⟨by simp, by simp⟩
  · split at read
    · cases read
    · cases read
      exact ⟨by simp, by simp⟩
  · cases read
    exact ⟨escape_outside settles_inUserInfo _, escape_outside settles_inUserInfo _⟩

theorem settled_of_readPort {scheme cs rest : List Char} {port : Option Nat}
    (read : readPort scheme cs = .ok (port, rest)) :
    ∀ p ∈ port, p ≤ 65535 ∧ defaultPort scheme ≠ some p := by
  have finished : ∀ {digits rest' : List Char} {n : Nat}, n ≤ 65535 →
      readPort.finish scheme digits n rest' = .ok (port, rest) →
      ∀ p ∈ port, p ≤ 65535 ∧ defaultPort scheme ≠ some p := by
    intro digits rest' n small done p mem
    cases done
    split at mem
    · cases mem
    · rename_i other
      cases mem
      exact ⟨small, fun same => other (by simp [same])⟩
  unfold readPort at read
  dsimp only at read
  split at read
  · cases read
  rename_i small
  split at read
  · split at read
    · exact finished (Nat.not_lt.mp small) read
    · cases read
  · exact finished (Nat.not_lt.mp small) read

theorem settled_of_readHostAndPort {scheme cs rest : List Char} {h : Host} {port : Option Nat}
    (special : isSpecial scheme = true) (read : readHostAndPort scheme cs = .ok (h, port, rest)) :
    h.Settled ∧ ∀ p ∈ port, p ≤ 65535 ∧ defaultPort scheme ≠ some p := by
  unfold readHostAndPort at read
  dsimp only at read
  rw [special] at read
  split at read
  · cases read
  obtain ⟨host, named, read⟩ := bind_eq_ok.mp read
  have settled := settled_of_readHost named
  split at read
  · split at read
    · cases read
    obtain ⟨⟨port, rest⟩, number, read⟩ := bind_eq_ok.mp read
    cases read
    exact ⟨settled, settled_of_readPort number⟩
  · cases read
    exact ⟨settled, by simp⟩

theorem settled_of_readAuthority {scheme cs : List Char} {a : Address} (web : IsWeb scheme)
    (read : readAuthority scheme cs = .ok a) : a.Settled := by
  unfold readAuthority at read
  rw [web.isSpecial] at read
  obtain ⟨⟨username, password, rest⟩, user, read⟩ := bind_eq_ok.mp read
  obtain ⟨⟨host, port, rest⟩, place, read⟩ := bind_eq_ok.mp read
  dsimp only at read
  split at read
  · cases read
  cases read
  obtain ⟨name, secret⟩ := settled_of_readUserInfo user
  obtain ⟨settled, number⟩ := settled_of_readHostAndPort web.isSpecial place
  refine ⟨web, name, secret, ⟨host, rfl, settled⟩, number,
    ⟨_, rfl, readSegments_ne_nil _, fun s => isSegment_of_mem_readSegments⟩, ?_, ?_⟩
  · intro q mem
    obtain ⟨q, _, rfl⟩ := Option.map_eq_some_iff.mp mem
    dsimp only
    rw [web.querySet]
    exact escape_outside settles_inSpecialQuery q
  · intro f mem
    obtain ⟨f, _, rfl⟩ := Option.map_eq_some_iff.mp mem
    exact escape_outside settles_inFragment f

/-! ### Schemes -/

theorem scheme_of_readAuthority {scheme cs : List Char} {a : Address}
    (read : readAuthority scheme cs = .ok a) : a.scheme = scheme := by
  unfold readAuthority at read
  obtain ⟨⟨username, password, rest⟩, _, read⟩ := bind_eq_ok.mp read
  obtain ⟨⟨host, port, rest⟩, _, read⟩ := bind_eq_ok.mp read
  dsimp only at read
  split at read
  · cases read
  · cases read
    rfl

theorem scheme_of_readPlain {scheme cs : List Char} {a : Address}
    (read : readPlain scheme cs = .ok a) : a.scheme = scheme := by
  unfold readPlain at read
  split at read
  · exact scheme_of_readAuthority read
  · cases read
    rfl
  · cases read
    rfl

theorem scheme_of_readFile {cs : List Char} {a : Address} (read : readFile cs = .ok a) :
    a.scheme = fileScheme := by
  unfold readFile at read
  split at read
  · split at read
    · dsimp only at read
      split at read
      · cases read
        rfl
      · obtain ⟨host, _, read⟩ := bind_eq_ok.mp read
        cases read
        split
        · rfl
        · rfl
    · cases read
      rfl
  · cases read
    rfl

/-- Every address of the web that is read has the form in which it is written. -/
theorem settled_of_parse {cs : List Char} {a : Address} (read : Address.parse cs = .ok a)
    (web : IsWeb a.scheme) : a.Settled := by
  unfold Address.parse at read
  dsimp only at read
  split at read
  · cases read
  rename_i scheme rest split
  split at read
  · rw [scheme_of_readFile read] at web
    exact absurd web.isFile (by decide)
  split at read
  · rw [scheme_of_readAuthority read] at web
    exact settled_of_readAuthority web read
  · rename_i plain
    rw [scheme_of_readPlain read] at web
    exact absurd web.isSpecial plain

end LearningClient.Url
