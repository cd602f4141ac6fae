import LearningClient.Proofs.Text.Trimming
import LearningClient.Proofs.Url.Settled

/-!
# Reading an address back

An address of the web whose parts have the form in which they are written is read
back from its text, part by part (`parse_text`). The parts find each other again
because none has in it what ends it: the name and password of a user have neither
colon nor at-sign, host and port no slash, a segment no slash either, a path no
question mark, and a query no hash sign. And all characters are visible, so
nothing is trimmed and nothing ignored.
-/

namespace LearningClient.Url

open LearningClient.Text

/-! ## Visible characters -/

/-- A text of visible characters is read as it is. -/
theorem trimControls_eq_self {cs : List Char} (visible : ∀ c ∈ cs, 0x20 < c.toNat) :
    trimControls cs = cs := by
  refine dropWhile_ends_eq_self fun c mem => ?_
  simpa using visible c mem

theorem withoutIgnored_eq_self {cs : List Char} (visible : ∀ c ∈ cs, 0x20 < c.toNat) :
    withoutIgnored cs = cs := by
  refine List.filter_eq_self.mpr fun c mem => ?_
  have other : ∀ d : Char, d.toNat ≤ 0x20 → c ≠ d := by
    rintro d low rfl
    exact absurd (visible c mem) (Nat.not_lt.mpr low)
  simp [isIgnored, other '\t' (by decide), other '\n' (by decide), other '\r' (by decide)]

/-! ## User and host -/

theorem takeWhile_append_of_notMem {d : Char} {cs : List Char} (none : d ∉ cs)
    (rest : List Char) :
    (cs ++ rest).takeWhile (· ≠ d) = cs ++ rest.takeWhile (· ≠ d) := by
  refine List.takeWhile_append_of_pos fun c mem => ?_
  have other : c ≠ d := fun same => none (same ▸ mem)
  simpa using other

theorem splitAtSign_of_notMem {cs : List Char} (none : '@' ∉ cs) :
    splitAtSign cs = (.none, cs) := by
  have all := takeWhile_append_of_notMem (fun mem => none (List.mem_reverse.mp mem)) []
  rw [List.append_nil, List.takeWhile_nil, List.append_nil] at all
  simp only [splitAtSign, all, List.reverse_reverse, if_true]

/-- The last at-sign is the one in front of the host. -/
theorem splitAtSign_append {user host : List Char} (none : '@' ∉ host) :
    splitAtSign (user ++ '@' :: host) = (some user, host) := by
  have reversed : (user ++ '@' :: host).reverse = host.reverse ++ '@' :: user.reverse := by simp
  have back := takeWhile_append_of_notMem (fun mem => none (List.mem_reverse.mp mem))
    ('@' :: user.reverse)
  rw [List.takeWhile_cons_of_neg (by simp), List.append_nil] at back
  have front : (user ++ '@' :: host).length - host.length - 1 = user.length := by
    simp
    omega
  have longer : ¬ host.length = (user ++ '@' :: host).length := by
    simp
    omega
  simp only [splitAtSign, reversed, back, List.reverse_reverse, if_neg longer, front,
    List.take_left]

/-- What stands before a part that begins with the end of the authority. -/
theorem takeWhile_authority {cs tail : List Char} (goes : ∀ c ∈ cs, endsAuthority true c = false)
    (ends : ∀ c ∈ tail.head?, endsAuthority true c = true) :
    (cs ++ tail).takeWhile (!endsAuthority true ·) = cs := by
  rw [List.takeWhile_append_of_pos fun c mem => by rw [goes c mem]; rfl]
  cases tail with
  | nil => simp
  | cons c tail => simp [ends c rfl]

/-- The colon, the at-sign and the marks that end the authority cannot stand in
the name of a user. -/
theorem apart_of_inUserInfo {c : Char} (outside : inUserInfo c = false) :
    0x20 < c.toNat ∧ c ≠ ':' ∧ c ≠ '@' ∧ endsAuthority true c = false := by
  have other : ∀ d, inUserInfo d = true → c ≠ d := fun _ => ne_of_outside outside
  refine ⟨?_, other _ (by decide), other _ (by decide), ?_⟩
  · exact visible_of_inFragment (Bool.or_eq_false_iff.mp (Bool.or_eq_false_iff.mp outside).1).1
  · simp [endsAuthority, isSlash, other '/' (by decide), other '\\' (by decide),
      other '?' (by decide), other '#' (by decide)]

/-- The characters of user and password as they are written. -/
theorem mem_userInfoText {a : Address} (settled : a.Settled) {c : Char}
    (mem : c ∈ a.userInfoText) : 0x20 < c.toNat ∧ endsAuthority true c = false := by
  have name : ∀ c ∈ a.username, 0x20 < c.toNat ∧ endsAuthority true c = false := by
    intro c mem
    obtain ⟨visible, _, _, goes⟩ := apart_of_inUserInfo (settled.username c mem)
    exact ⟨visible, goes⟩
  have secret : ∀ c ∈ a.password, 0x20 < c.toNat ∧ endsAuthority true c = false := by
    intro c mem
    obtain ⟨visible, _, _, goes⟩ := apart_of_inUserInfo (settled.password c mem)
    exact ⟨visible, goes⟩
  unfold Address.userInfoText at mem
  split at mem
  · cases mem
  rw [List.mem_append, List.mem_append, List.mem_singleton] at mem
  rcases mem with (mem | mem) | rfl
  · exact name c mem
  · split at mem
    · cases mem
    · rcases List.mem_cons.mp mem with rfl | mem
      · decide
      · exact secret c mem
  · decide

/-- What stands in front of an at-sign is cut at its first colon. -/
theorem cut_user {name : List Char} (colon : ':' ∉ name) (secret : List Char) :
    let user := name ++ (if secret.isEmpty then [] else ':' :: secret)
    user.takeWhile (· ≠ ':') = name ∧ user.drop (name.length + 1) = secret := by
  dsimp only
  rw [takeWhile_append_of_notMem colon, List.drop_append, List.drop_of_length_le (by omega)]
  cases secret with
  | nil => simp
  | cons c secret => simp

theorem readUserInfo_text {a : Address} (settled : a.Settled) {host tail : List Char}
    (goes : ∀ c ∈ host, c ≠ '@' ∧ endsAuthority true c = false)
    (ends : ∀ c ∈ tail.head?, endsAuthority true c = true) :
    readUserInfo true (a.userInfoText ++ host ++ tail) =
      .ok (a.username, a.password, host ++ tail) := by
  have authority : (a.userInfoText ++ host ++ tail).takeWhile (!endsAuthority true ·) =
      a.userInfoText ++ host := by
    refine takeWhile_authority (fun c mem => ?_) ends
    rcases List.mem_append.mp mem with mem | mem
    · exact (mem_userInfoText settled mem).2
    · exact (goes c mem).2
  have sign : '@' ∉ host := fun mem => (goes _ mem).1 rfl
  simp only [readUserInfo, authority, List.drop_left]
  by_cases nobody : a.username = [] ∧ a.password = []
  · have none : a.userInfoText = [] := by simp [Address.userInfoText, nobody]
    rw [none, List.nil_append, splitAtSign_of_notMem sign]
    simp [nobody]
  · have colon : ':' ∉ a.username := fun mem =>
      (apart_of_inUserInfo (settled.username _ mem)).2.1 rfl
    obtain ⟨name, secret⟩ := cut_user colon a.password
    have text : a.userInfoText =
        a.username ++ (if a.password.isEmpty then [] else ':' :: a.password) ++ ['@'] := by
      rw [Address.userInfoText, if_neg (by simpa using nobody)]
    have some : a.username ++ (if a.password.isEmpty then [] else ':' :: a.password) ≠ [] := by
      intro none
      rw [none] at name secret
      exact nobody ⟨name.symm, secret.symm.trans List.drop_nil⟩
    rw [text, List.append_assoc _ ['@'], List.singleton_append, splitAtSign_append sign]
    generalize a.username ++ (if a.password.isEmpty then [] else ':' :: a.password) = user
      at name secret some
    cases user with
    | nil => exact absurd rfl some
    | cons c user =>
      simp only [name, secret, escape_eq_self settled.username, escape_eq_self settled.password]

/-- No digit ends the authority. -/
theorem isDigit_of_endsAuthority {c : Char} (ends : endsAuthority true c = true) :
    c.isDigit = false := by
  by_contra digit
  rw [Bool.not_eq_false] at digit
  obtain ⟨_, _, goes, _⟩ := apart_of_allowed (forbiddenInDomain_of_isDigit digit).1
  rw [goes] at ends
  cases ends

theorem readPort_natText {scheme tail : List Char} {p : Nat} (small : p ≤ 65535)
    (other : defaultPort scheme ≠ some p) (ends : ∀ c ∈ tail.head?, endsAuthority true c = true) :
    readPort scheme (natText p ++ tail) = .ok (some p, tail) := by
  have stops : tail.takeWhile Char.isDigit = [] ∧ tail.dropWhile Char.isDigit = tail := by
    cases tail with
    | nil => simp
    | cons c tail => simp [isDigit_of_endsAuthority (ends c rfl)]
  have digits : (natText p ++ tail).takeWhile Char.isDigit = natText p := by
    rw [List.takeWhile_append_of_pos fun c => isDigit_of_mem_natText, stops.1, List.append_nil]
  have rest : (natText p ++ tail).dropWhile Char.isDigit = tail := by
    rw [List.dropWhile_append_of_pos fun c => isDigit_of_mem_natText, stops.2]
  have finish : readPort.finish scheme (natText p) p tail = .ok (some p, tail) := by
    simp [readPort.finish, natText_ne_nil, other]
  simp only [readPort, digits, rest, ofDigits_natText, if_neg (Nat.not_lt.mpr small)]
  cases tail with
  | nil => exact finish
  | cons c tail => simpa [ends c rfl] using finish

/-- A colon and the number of a port, if there is one. -/
def portText : Option Nat → List Char
  | some p => ':' :: natText p
  | none => []

theorem readHostAndPort_text {scheme : List Char} (special : isSpecial scheme = true) {h : Host}
    (settled : h.Settled) {port : Option Nat}
    (number : ∀ p ∈ port, p ≤ 65535 ∧ defaultPort scheme ≠ some p) {tail : List Char}
    (ends : ∀ c ∈ tail.head?, endsAuthority true c = true) :
    readHostAndPort scheme (h.text ++ portText port ++ tail) = .ok (h, port, tail) := by
  have after : EndsHost (portText port ++ tail) := by
    cases port with
    | none => exact fun c mem => .inl (ends c mem)
    | some p => exact fun c mem => .inr (Option.some.inj mem).symm
  have named : h ≠ .name [] := by
    rintro rfl
    exact text_ne_nil settled rfl
  rw [List.append_assoc]
  simp only [readHostAndPort, special, splitHost_text settled after, Bool.true_and, if_true,
    List.isEmpty_iff, if_neg (text_ne_nil settled), readHost_text settled]
  simp only [bind, Except.bind]
  cases port with
  | none =>
    rw [portText, List.nil_append]
    split
    · exact absurd (ends ':' rfl) (by decide)
    · rfl
  | some p =>
    obtain ⟨small, other⟩ := number p rfl
    simp only [portText, List.cons_append, if_neg named, readPort_natText small other ends]
    rfl

/-! ## Path, query and fragment -/

/-- What follows the authority. -/
def Address.tail (a : Address) : List Char :=
  a.path.text ++ optional '?' a.query ++ optional '#' a.fragment

theorem splitTail_text {path : List Char} {query fragment : Option (List Char)}
    (mark : '?' ∉ path) (hash : '#' ∉ path) (quoted : ∀ q ∈ query, '#' ∉ q) :
    splitTail (path ++ optional '?' query ++ optional '#' fragment) = (path, query, fragment) := by
  have none : '#' ∉ path ++ optional '?' query := by
    cases query with
    | none => simpa [optional] using hash
    | some q => simp [optional, hash, quoted q rfl]
  have front : (path ++ optional '?' query ++ optional '#' fragment).takeWhile (· ≠ '#') =
      path ++ optional '?' query := by
    rw [takeWhile_append_of_notMem none]
    cases fragment <;> simp [optional]
  have inner : (path ++ optional '?' query).takeWhile (· ≠ '?') = path := by
    rw [takeWhile_append_of_notMem mark]
    cases query <;> simp [optional]
  simp only [splitTail, front, inner, List.drop_left]
  cases query <;> cases fragment <;> rfl

/-- The characters of a path. -/
theorem mem_pathText {ss : List (List Char)} (segments : ∀ s ∈ ss, IsSegment s) {c : Char}
    (mem : c ∈ Path.text (.segments ss)) : c = '/' ∨ inPath c = false := by
  obtain ⟨s, there, mem⟩ := List.mem_flatMap.mp mem
  rcases List.mem_cons.mp mem with slash | mem
  · exact .inl slash
  · exact .inr ((segments s there).plain c mem)

theorem splitTail_tail {a : Address} (settled : a.Settled) :
    splitTail a.tail = (a.path.text, a.query, a.fragment) := by
  obtain ⟨ss, path, _, segments⟩ := settled.path
  have apart : ∀ d, inPath d = true → d ≠ '/' → d ∉ a.path.text := by
    intro d inside slash mem
    rw [path] at mem
    rcases mem_pathText segments mem with same | outside
    · exact slash same
    · exact ne_of_outside outside inside rfl
  refine splitTail_text (apart _ (by decide) (by decide)) (apart _ (by decide) (by decide)) ?_
  exact fun q mem hash => ne_of_outside (settled.query q mem _ hash) (by decide) rfl

theorem assemble_tail {a : Address} (settled : a.Settled) :
    assemble { a with path := .flat [], query := none, fragment := none }
      (fun path => .segments (readSegments true path)) a.tail = a := by
  obtain ⟨ss, path, some, segments⟩ := settled.path
  have query : a.query.map (escape (querySet a.scheme)) = a.query := by
    rw [settled.web.querySet]
    cases query : a.query with
    | none => rfl
    | some q => exact congrArg Option.some (escape_eq_self (settled.query q query))
  have fragment : a.fragment.map (escape inFragment) = a.fragment := by
    cases fragment : a.fragment with
    | none => rfl
    | some f => exact congrArg Option.some (escape_eq_self (settled.fragment f fragment))
  have read : Path.segments (readSegments true a.path.text) = a.path := by
    rw [path, readSegments_text segments some]
  simp only [assemble, splitTail_tail settled, query, fragment, read]

theorem tail_eq_cons {a : Address} (settled : a.Settled) : ∃ rest, a.tail = '/' :: rest := by
  obtain ⟨ss, path, some, _⟩ := settled.path
  obtain ⟨s, ss, rfl⟩ := List.exists_cons_of_ne_nil some
  rw [Address.tail, path, Path.text_cons]
  exact ⟨_, rfl⟩

/-! ## Whole addresses -/

theorem text_eq {a : Address} {h : Host} (host : a.host = some h) :
    a.text = a.scheme ++ ':' :: '/' :: '/' ::
      (a.userInfoText ++ (h.text ++ portText a.port) ++ a.tail) := by
  cases port : a.port with
  | none => simp [Address.text, Address.authorityText, host, port, Address.tail, portText]
  | some p => simp [Address.text, Address.authorityText, host, port, Address.tail, portText]

theorem visible_tail {a : Address} (settled : a.Settled) : ∀ c ∈ a.tail, 0x20 < c.toNat := by
  intro c mem
  obtain ⟨ss, path, _, segments⟩ := settled.path
  rw [Address.tail, List.mem_append, List.mem_append, path] at mem
  rcases mem with (mem | mem) | mem
  · rcases mem_pathText segments mem with rfl | outside
    · decide
    · exact visible_of_inFragment (Bool.or_eq_false_iff.mp outside).1
  · cases query : a.query with
    | none => simp [optional, query] at mem
    | some q =>
      rw [query, optional, List.mem_cons] at mem
      rcases mem with rfl | mem
      · decide
      · exact visible_of_inSpecialQuery (settled.query q query c mem)
  · cases fragment : a.fragment with
    | none => simp [optional, fragment] at mem
    | some f =>
      rw [fragment, optional, List.mem_cons] at mem
      rcases mem with rfl | mem
      · decide
      · exact visible_of_inFragment (settled.fragment f fragment c mem)

theorem mem_hostPort {h : Host} (settled : h.Settled) {port : Option Nat} {c : Char}
    (mem : c ∈ h.text ++ portText port) :
    0x20 < c.toNat ∧ c ≠ '@' ∧ endsAuthority true c = false := by
  rcases List.mem_append.mp mem with mem | mem
  · exact goes_of_mem_text settled mem
  · cases port with
    | none => cases mem
    | some p =>
      rcases List.mem_cons.mp mem with rfl | mem
      · decide
      · obtain ⟨visible, sign, goes, _⟩ :=
          apart_of_allowed (forbiddenInDomain_of_isDigit (isDigit_of_mem_natText mem)).1
        exact ⟨visible, sign, goes⟩

theorem visible_text {a : Address} (settled : a.Settled) : ∀ c ∈ a.text, 0x20 < c.toNat := by
  intro c mem
  obtain ⟨h, host, named⟩ := settled.host
  rw [text_eq host] at mem
  simp only [List.mem_append, List.mem_cons] at mem
  rcases mem with mem | rfl | rfl | rfl | (mem | mem) | mem
  · exact settled.web.visible c mem
  · decide
  · decide
  · decide
  · exact (mem_userInfoText settled mem).1
  · exact (mem_hostPort named (List.mem_append.mpr mem)).1
  · exact visible_tail settled c mem

/-- An address of the web is read back from its text. -/
theorem parse_text {a : Address} (settled : a.Settled) : Address.parse a.text = .ok a := by
  obtain ⟨h, host, named⟩ := settled.host
  obtain ⟨rest, slash⟩ := tail_eq_cons settled
  have ends : ∀ c ∈ a.tail.head?, endsAuthority true c = true := by
    rw [slash]
    intro c mem
    cases mem
    rfl
  have goes : ∀ c ∈ a.userInfoText ++ (h.text ++ portText a.port), isSlash true c = false := by
    intro c mem
    rcases List.mem_append.mp mem with mem | mem
    · exact isSlash_of_goes (mem_userInfoText settled mem).2
    · exact isSlash_of_goes (mem_hostPort named mem).2.2
  have slashes : ('/' :: '/' :: (a.userInfoText ++ (h.text ++ portText a.port) ++ a.tail)).dropWhile
      (isSlash true) = a.userInfoText ++ (h.text ++ portText a.port) ++ a.tail := by
    obtain ⟨c, cs, front⟩ := List.exists_cons_of_ne_nil
      (l := a.userInfoText ++ (h.text ++ portText a.port)) (by simp [text_ne_nil named])
    rw [front] at goes ⊢
    rw [List.dropWhile_cons_of_pos rfl, List.dropWhile_cons_of_pos rfl, List.cons_append,
      List.dropWhile_cons_of_neg (Bool.eq_false_iff.mp (goes c List.mem_cons_self))]
  have user : readUserInfo true (a.userInfoText ++ (h.text ++ portText a.port) ++ a.tail) =
      .ok (a.username, a.password, h.text ++ portText a.port ++ a.tail) :=
    readUserInfo_text settled (fun c mem => (mem_hostPort named mem).2) ends
  have place := readHostAndPort_text settled.web.isSpecial named settled.port ends
  have full : h ≠ .name [] := by
    rintro rfl
    exact text_ne_nil named rfl
  have visible := visible_text settled
  have whole := assemble_tail settled
  simp only [Address.parse, trimControls_eq_self visible, withoutIgnored_eq_self visible]
  rw [text_eq host, settled.web.splitScheme?]
  simp only [settled.web.isFile, settled.web.isSpecial, Bool.false_eq_true, if_false, if_true,
    slashes, readAuthority, user, place, bind, Except.bind, full, decide_false, Bool.false_and]
  rw [host] at whole
  exact congrArg Except.ok whole

end LearningClient.Url
