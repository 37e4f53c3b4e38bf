import Mathlib.Data.List.Basic

/-! # The door

What a request must satisfy before it reaches a tool: its `Host` names this machine, and so does
its `Origin` if it has one. The authority is split by hand. What follows the host is dropped
unread, so a loopback host is accepted with any tail the split can drop.
-/

namespace Oppen.Mcp.Guard

/-- Why a request was refused before any tool ran. -/
inductive Refusal where
  | hostMissing
  | hostNotLoopback (host : String)
  | originNotLoopback (origin : String)
  deriving DecidableEq, Repr

/-- `LOOPBACK_HOSTS`. -/
def loopbackHosts : List String := ["127.0.0.1", "localhost", "[::1]", "::1"]

/-- `eq_ignore_ascii_case`. -/
def eqIgnoreAsciiCase (left right : List Char) : Bool :=
  left.map Char.toLower = right.map Char.toLower

/-- `split_once`. -/
def splitOnce (separator : Char) : List Char → Option (List Char × List Char)
  | [] => none
  | head :: rest =>
      if head = separator then some ([], rest)
      else (splitOnce separator rest).map fun (before, after) => (head :: before, after)

/-- `strip_prefix`. -/
def stripPrefix (stem text : List Char) : Option (List Char) :=
  if stem.isPrefixOf text then some (text.drop stem.length) else none

/-- `strip_port`: an unterminated bracket and several colons are returned whole. -/
def stripPort (authority : List Char) : List Char :=
  match authority with
  | '[' :: rest =>
      match splitOnce ']' rest with
      | some (inside, _) => '[' :: inside ++ [']']
      | none => authority
  | _ =>
      match splitOnce ':' authority with
      | some (host, _) => if 1 < authority.count ':' then authority else host
      | none => authority

/-- `is_loopback_authority`. -/
def isLoopbackAuthority (authority : List Char) : Bool :=
  loopbackHosts.any fun candidate => eqIgnoreAsciiCase (stripPort authority) candidate.toList

/-- `check_host`. -/
def checkHost : Option String → Except Refusal Unit
  | none => .error .hostMissing
  | some host =>
      if isLoopbackAuthority host.toList then .ok () else .error (.hostNotLoopback host)

/-- What follows the scheme of an origin that is not opaque. -/
def originAuthority (origin : String) : Option (List Char) :=
  ((stripPrefix "http://".toList origin.toList).or
    (stripPrefix "https://".toList origin.toList)).filter fun _ => origin ≠ "null"

/-- `check_origin`: a caller without one is no web page. -/
def checkOrigin : Option String → Except Refusal Unit
  | none => .ok ()
  | some origin =>
      match originAuthority origin with
      | some authority =>
          if isLoopbackAuthority authority then .ok () else .error (.originNotLoopback origin)
      | none => .error (.originNotLoopback origin)

/-! ## Authorities -/

/-- A host in any letter case. -/
def Named (name : String) (host : List Char) : Prop := host.map Char.toLower = name.toList

/-- A colon and a decimal port, or nothing. -/
inductive OptionalPort : List Char → Prop
  | none : OptionalPort []
  | port {digits : List Char} (some : digits ≠ []) (decimal : ∀ digit ∈ digits, digit.isDigit) :
      OptionalPort (':' :: digits)

/-- A loopback host, with a port or without one; the bare `::1` takes none. -/
inductive LoopbackAuthority : List Char → Prop
  | bare {host : List Char} (named : Named "::1" host) : LoopbackAuthority host
  | hosted {name : String} {host port : List Char}
      (known : name ∈ ["127.0.0.1", "localhost", "[::1]"]) (named : Named name host)
      (optional : OptionalPort port) : LoopbackAuthority (host ++ port)

/-- A loopback host with a tail that is no port: anything after the bracket, and after another
host anything behind the only colon. -/
inductive Overruns : List Char → Prop
  | bracket {host tail : List Char} (named : Named "[::1]" host) (dropped : ¬ OptionalPort tail) :
      Overruns (host ++ tail)
  | colon {name : String} {host tail : List Char} (known : name ∈ ["127.0.0.1", "localhost"])
      (named : Named name host) (single : ':' ∉ tail) (dropped : ¬ OptionalPort (':' :: tail)) :
      Overruns (host ++ ':' :: tail)

/-- What is said of an authority, said of an origin: it has a scheme of the web, and the authority
after it. -/
def OfOrigin (authority : List Char → Prop) (origin : String) : Prop :=
  ∃ scheme ∈ ["http://", "https://"], ∃ rest, origin.toList = scheme.toList ++ rest ∧ authority rest

/-! ## Splitting -/

section Splitting

variable {separator : Char} {text before after : List Char}

/-- A text splits at the first separator. -/
theorem splitOnce_append (absent : separator ∉ before) :
    splitOnce separator (before ++ separator :: after) = some (before, after) := by
  induction before with
  | nil => simp [splitOnce]
  | cons head before ih =>
      rw [List.mem_cons, not_or] at absent
      rw [List.cons_append, splitOnce, if_neg (Ne.symm absent.1), ih absent.2]
      rfl

/-- A text without a separator does not split. -/
theorem splitOnce_none (absent : separator ∉ text) : splitOnce separator text = none := by
  induction text with
  | nil => rfl
  | cons head text ih =>
      rw [List.mem_cons, not_or] at absent
      rw [splitOnce, if_neg (Ne.symm absent.1), ih absent.2]
      rfl

/-- A stem is stripped off the text it begins. -/
theorem stripPrefix_append (stem rest : List Char) :
    stripPrefix stem (stem ++ rest) = some rest := by
  rw [stripPrefix, if_pos (List.isPrefixOf_iff_prefix.mpr (List.prefix_append stem rest)),
    List.drop_left]

/-- A text whose stem was stripped begins with it. -/
theorem of_stripPrefix {stem rest : List Char} (stripped : stripPrefix stem text = some rest) :
    text = stem ++ rest := by
  rw [stripPrefix] at stripped
  split_ifs at stripped with within
  obtain ⟨tail, rfl⟩ := List.isPrefixOf_iff_prefix.mp within
  rw [List.drop_left] at stripped
  rw [Option.some.inj stripped]

end Splitting

/-! ## Letter case -/

/-- A letter in the other case is a letter. -/
theorem isAlpha_toLower {letter : Char} (upper : letter.isUpper = true) :
    letter.toLower.isAlpha = true := by
  have letters : ∀ code < 91, 65 ≤ code → (Char.ofNat code).toLower.isAlpha = true := by decide
  have cased : 'A'.val ≤ letter.val ∧ letter.val ≤ 'Z'.val := of_decide_eq_true upper
  have within : letter.toNat < 91 := Nat.lt_succ_of_le cased.2
  have named := letters letter.toNat within cased.1
  rw [Char.ofNat_toNat] at named
  exact named

/-- Only a letter is some other character in another case. -/
theorem toLower_eq_iff {character plain : Char} (unlettered : plain.isAlpha = false) :
    character.toLower = plain ↔ character = plain := by
  by_cases upper : character.isUpper = true
  · constructor
    · rintro rfl
      rw [isAlpha_toLower upper] at unlettered
      cases unlettered
    · rintro rfl
      have cased : (character.isUpper || character.isLower) = false := unlettered
      rw [upper] at cased
      cases cased
  · have same : character.toLower = character :=
      dif_neg fun cased => upper (decide_eq_true cased)
    rw [same]

section Named

variable {name : String} {host : List Char}

/-- A host has the unlettered characters of its name. -/
theorem Named.mem_iff (named : Named name host) {plain : Char}
    (unlettered : plain.isAlpha = false) : plain ∈ host ↔ plain ∈ name.toList := by
  rw [← named, List.mem_map]
  constructor
  · exact fun member => ⟨plain, member, (toLower_eq_iff unlettered).mpr rfl⟩
  · rintro ⟨character, member, same⟩
    exact (toLower_eq_iff unlettered).mp same ▸ member

/-- A name without letters is spelled in one way. -/
theorem Named.eq (named : Named name host)
    (unlettered : (name.toList.any Char.isAlpha) = false) : host = name.toList := by
  unfold Named at named
  simp only [List.any_eq_false, Bool.not_eq_true] at unlettered
  generalize name.toList = letters at named unlettered
  induction host generalizing letters with
  | nil => exact named
  | cons head host ih =>
      subst named
      rw [List.map_cons] at unlettered ⊢
      have first := (toLower_eq_iff (unlettered _ List.mem_cons_self)).mp rfl
      rw [← first, ← ih _ rfl fun plain member => unlettered plain (List.mem_cons_of_mem _ member)]

end Named

/-! ## What is stripped -/

section Stripping

variable {host inside tail : List Char}

/-- A bracketed host is read up to its bracket, whatever follows. -/
theorem stripPort_bracket (isOpen : ']' ∉ inside) :
    stripPort ('[' :: inside ++ ']' :: tail) = '[' :: inside ++ [']'] := by
  rw [List.cons_append, stripPort, splitOnce_append isOpen]

/-- A bracket that is not closed is no host with a port, and the text stays as it is. -/
theorem stripPort_unterminated (isOpen : ']' ∉ inside) :
    stripPort ('[' :: inside) = '[' :: inside := by
  rw [stripPort, splitOnce_none isOpen]

/-- Outside brackets an authority is split at its only colon. -/
theorem stripPort_plain (plain : host.head? ≠ some '[') :
    stripPort host = match splitOnce ':' host with
      | some (before, _) => if 1 < host.count ':' then host else before
      | none => host := by
  unfold stripPort
  split
  · exact absurd rfl plain
  · rfl

/-- A host without a bracket does not begin with one. -/
theorem head?_ne_of_not_mem (absent : '[' ∉ host) : host.head? ≠ some '[' :=
  fun same => absent (List.mem_of_mem_head? same)

/-- A host with one colon is read up to it. -/
theorem stripPort_hostPort (plain : host.head? ≠ some '[') (before : ':' ∉ host)
    (after : ':' ∉ tail) : stripPort (host ++ ':' :: tail) = host := by
  have head : (host ++ ':' :: tail).head? ≠ some '[' := by
    cases host with
    | nil => simp
    | cons first rest => exact plain
  have single : (host ++ ':' :: tail).count ':' = 1 := by
    simp [List.count_eq_zero_of_not_mem before, List.count_eq_zero_of_not_mem after]
  rw [stripPort_plain head, splitOnce_append before, single]
  rfl

/-- A host with no colon, or with several, is read as a whole. -/
theorem stripPort_whole (plain : host.head? ≠ some '[') (several : host.count ':' ≠ 1) :
    stripPort host = host := by
  rw [stripPort_plain plain]
  by_cases colon : ':' ∈ host
  · obtain ⟨before, after, rfl, absent⟩ := List.eq_append_cons_of_mem colon
    have more : 0 < (before ++ ':' :: after).count ':' := List.count_pos_iff.mpr colon
    rw [splitOnce_append absent]
    exact if_pos (by omega)
  · rw [splitOnce_none colon]

/-- The shapes an authority is split by. -/
theorem authority_cases (authority : List Char) :
    (∃ inside tail, ']' ∉ inside ∧ authority = '[' :: inside ++ ']' :: tail) ∨
    (∃ inside, ']' ∉ inside ∧ authority = '[' :: inside) ∨
    (∃ host tail, host.head? ≠ some '[' ∧ ':' ∉ host ∧ ':' ∉ tail ∧
      authority = host ++ ':' :: tail) ∨
    (authority.head? ≠ some '[' ∧ authority.count ':' ≠ 1) := by
  by_cases bracket : authority.head? = some '['
  · obtain ⟨rest, rfl⟩ := List.head?_eq_some_iff.mp bracket
    by_cases closed : ']' ∈ rest
    · obtain ⟨inside, tail, rfl, absent⟩ := List.eq_append_cons_of_mem closed
      exact .inl ⟨inside, tail, absent, rfl⟩
    · exact .inr (.inl ⟨rest, closed, rfl⟩)
  by_cases single : authority.count ':' = 1
  · have colon : ':' ∈ authority := List.count_pos_iff.mp (by omega)
    obtain ⟨host, tail, rfl, absent⟩ := List.eq_append_cons_of_mem colon
    refine .inr (.inr (.inl ⟨host, tail, ?_, absent, ?_, rfl⟩))
    · intro head
      apply bracket
      rw [List.head?_append, head]
      rfl
    · intro member
      have more := List.count_pos_iff.mpr member
      simp at single
      omega
  · exact .inr (.inr (.inr ⟨bracket, single⟩))

end Stripping

/-! ## What is accepted -/

/-- An authority is a loopback one exactly if its host is named among the loopback hosts, its port
aside. -/
theorem isLoopbackAuthority_eq (authority : List Char) :
    isLoopbackAuthority authority = true ↔
      ∃ name ∈ loopbackHosts, Named name (stripPort authority) := by
  have lower : ∀ name ∈ loopbackHosts, name.toList.map Char.toLower = name.toList := by decide
  rw [isLoopbackAuthority, List.any_eq_true]
  refine exists_congr fun name => and_congr_right fun known => ?_
  rw [eqIgnoreAsciiCase, decide_eq_true_eq, lower name known]
  rfl

section Accepted

variable {authority : List Char}

/-- Only one host has brackets. -/
theorem eq_bracket : ∀ name ∈ loopbackHosts, '[' ∈ name.toList ∨ ']' ∈ name.toList →
    name = "[::1]" := by
  decide

/-- A host without brackets is the bare one, which has several colons, or has none. -/
theorem eq_bare : ∀ name ∈ loopbackHosts, '[' ∉ name.toList → name = "::1" ∨
    name ∈ ["127.0.0.1", "localhost"] ∧ ':' ∉ name.toList := by
  decide

/-- The bracketed IPv6 loopback is named by itself only. -/
theorem Named.bracket {host : List Char} (named : Named "[::1]" host) :
    host = '[' :: "::1".toList ++ [']'] :=
  named.eq (by decide)

/-- The bare IPv6 loopback is named by itself only. -/
theorem Named.bare {host : List Char} (named : Named "::1" host) : host = "::1".toList :=
  named.eq (by decide)

/-- What a host outside brackets is made of. -/
theorem Named.plain {name : String} {host : List Char}
    (known : name ∈ ["127.0.0.1", "localhost"]) (named : Named name host) :
    '[' ∉ host ∧ ':' ∉ host := by
  have unlettered : ∀ name ∈ ["127.0.0.1", "localhost"], '[' ∉ name.toList ∧ ':' ∉ name.toList := by
    decide
  rw [named.mem_iff rfl, named.mem_iff rfl]
  exact unlettered name known

/-- The plain names are among the loopback hosts, and among those that may have a port. -/
theorem loopbackHosts_of_plain {name : String} (known : name ∈ ["127.0.0.1", "localhost"]) :
    name ∈ loopbackHosts ∧ name ∈ ["127.0.0.1", "localhost", "[::1]"] := by
  revert known
  simp only [loopbackHosts, List.mem_cons]
  tauto

/-- **An accepted authority is a loopback one, or one with a tail that was dropped.** -/
theorem loopback_or_overruns (accepted : isLoopbackAuthority authority = true) :
    LoopbackAuthority authority ∨ Overruns authority := by
  obtain ⟨name, known, named⟩ := (isLoopbackAuthority_eq authority).mp accepted
  rcases authority_cases authority with ⟨inside, tail, isOpen, rfl⟩ | ⟨inside, isOpen, rfl⟩ |
    ⟨host, tail, plain, before, after, rfl⟩ | ⟨plain, several⟩
  · rw [stripPort_bracket isOpen] at named
    have opened := (named.mem_iff rfl).mp (List.mem_cons_self : '[' ∈ '[' :: (inside ++ [']']))
    obtain rfl := eq_bracket name known (.inl opened)
    have split : '[' :: inside ++ ']' :: tail = ('[' :: inside ++ [']']) ++ tail := by simp
    rw [split]
    by_cases port : OptionalPort tail
    · exact .inl (.hosted (by decide) named port)
    · exact .inr (.bracket named port)
  · rw [stripPort_unterminated isOpen] at named
    have opened := (named.mem_iff rfl).mp (List.mem_cons_self : '[' ∈ '[' :: inside)
    obtain rfl := eq_bracket name known (.inl opened)
    have closed := (named.mem_iff rfl).mpr (by decide : ']' ∈ "[::1]".toList)
    simp [isOpen] at closed
  · rw [stripPort_hostPort plain before after] at named
    have bracket : '[' ∉ name.toList := by
      intro bracket
      obtain rfl := eq_bracket name known (.inl bracket)
      obtain rfl := named.bracket
      exact plain rfl
    rcases eq_bare name known bracket with rfl | ⟨outside, _⟩
    · obtain rfl := named.bare
      simp at before
    · by_cases port : OptionalPort (':' :: tail)
      · exact .inl (.hosted (loopbackHosts_of_plain outside).2 named port)
      · exact .inr (.colon outside named after port)
  · rw [stripPort_whole plain several] at named
    by_cases bracket : '[' ∈ name.toList
    · obtain rfl := eq_bracket name known (.inl bracket)
      obtain rfl := named.bracket
      exact absurd rfl plain
    rcases eq_bare name known bracket with rfl | ⟨outside, _⟩
    · exact .inl (.bare named)
    · have whole := LoopbackAuthority.hosted (loopbackHosts_of_plain outside).2 named .none
      rw [List.append_nil] at whole
      exact .inl whole

/-- An authority whose host is named is accepted. -/
theorem accepted_of_named {name : String} (known : name ∈ loopbackHosts)
    (named : Named name (stripPort authority)) : isLoopbackAuthority authority = true :=
  (isLoopbackAuthority_eq authority).mpr ⟨name, known, named⟩

/-- After a bracketed host everything is dropped. -/
theorem bracket_stripped {host : List Char} (named : Named "[::1]" host) (tail : List Char) :
    stripPort (host ++ tail) = host := by
  obtain rfl := named.bracket
  have split : '[' :: "::1".toList ++ [']'] ++ tail = '[' :: "::1".toList ++ ']' :: tail := by simp
  rw [split, stripPort_bracket (by decide)]

/-- After another host everything is dropped that has no second colon. -/
theorem colon_stripped {name : String} {host tail : List Char}
    (known : name ∈ ["127.0.0.1", "localhost"]) (named : Named name host) (single : ':' ∉ tail) :
    stripPort (host ++ ':' :: tail) = host := by
  obtain ⟨bracket, colon⟩ := named.plain known
  exact stripPort_hostPort (head?_ne_of_not_mem bracket) colon single

/-- After any host that takes a port the port is dropped. -/
theorem port_stripped {name : String} {host port : List Char}
    (known : name ∈ ["127.0.0.1", "localhost", "[::1]"]) (named : Named name host)
    (optional : OptionalPort port) : stripPort (host ++ port) = host := by
  by_cases bracket : name = "[::1]"
  · subst bracket
    exact bracket_stripped named port
  have outside : name ∈ ["127.0.0.1", "localhost"] := by
    simp only [List.mem_cons, List.not_mem_nil, or_false] at known ⊢
    tauto
  cases optional with
  | none =>
      obtain ⟨bracket, colon⟩ := named.plain outside
      rw [List.append_nil, stripPort_whole (head?_ne_of_not_mem bracket)]
      simp [List.count_eq_zero_of_not_mem colon]
  | port some decimal =>
      apply colon_stripped outside named
      intro member
      have digit := decimal ':' member
      cases digit

/-- A loopback authority is accepted, and a port is all that is dropped of it. -/
theorem LoopbackAuthority.accepted (loopback : LoopbackAuthority authority) :
    isLoopbackAuthority authority = true ∧
      OptionalPort (authority.drop (stripPort authority).length) := by
  cases loopback with
  | bare named =>
      obtain rfl := named.bare
      have whole : stripPort "::1".toList = "::1".toList := stripPort_whole (by decide) (by decide)
      rw [whole, List.drop_length]
      exact ⟨accepted_of_named (by decide) (whole.symm ▸ named), .none⟩
  | @hosted name host port known named optional =>
      have stripped := port_stripped known named optional
      have listed : name ∈ loopbackHosts := by
        simp only [loopbackHosts, List.mem_cons] at known ⊢
        tauto
      rw [stripped, List.drop_left]
      exact ⟨accepted_of_named listed (stripped.symm ▸ named), optional⟩

/-- So is a host with another tail, and what is dropped of it is no port. -/
theorem Overruns.accepted (overruns : Overruns authority) :
    isLoopbackAuthority authority = true ∧
      ¬ OptionalPort (authority.drop (stripPort authority).length) := by
  cases overruns with
  | @bracket host tail named dropped =>
      have stripped := bracket_stripped named tail
      rw [stripped, List.drop_left]
      exact ⟨accepted_of_named (by decide) (stripped.symm ▸ named), dropped⟩
  | colon known named single dropped =>
      have stripped := colon_stripped known named single
      rw [stripped, List.drop_left]
      exact ⟨accepted_of_named (loopbackHosts_of_plain known).1 (stripped.symm ▸ named), dropped⟩

/-- **Where the check is exact.** -/
theorem accepted_iff : (isLoopbackAuthority authority = true ↔ LoopbackAuthority authority) ↔
    ¬ Overruns authority := by
  constructor
  · intro precise overruns
    have loopback := precise.mp overruns.accepted.1
    exact overruns.accepted.2 loopback.accepted.2
  · intro clean
    refine ⟨fun accepted => (loopback_or_overruns accepted).resolve_right clean, fun loopback => ?_⟩
    exact loopback.accepted.1

end Accepted

/-! ## The headers -/

/-- A host header is accepted exactly if it is a loopback authority. -/
theorem checkHost_some (host : String) :
    checkHost (some host) = .ok () ↔ isLoopbackAuthority host.toList = true := by
  rw [checkHost]
  split_ifs with accepted
  · exact iff_of_true rfl accepted
  · exact iff_of_false nofun accepted

/-- An origin is read behind its scheme. -/
theorem originAuthority_eq_some {origin : String} {rest : List Char} :
    originAuthority origin = some rest ↔
      ∃ scheme ∈ ["http://", "https://"], origin.toList = scheme.toList ++ rest := by
  rw [originAuthority, Option.filter_eq_some_iff]
  constructor
  · rintro ⟨stripped, _⟩
    rcases Option.or_eq_some_iff.mp stripped with plain | ⟨_, secure⟩
    · exact ⟨"http://", List.mem_cons_self, of_stripPrefix plain⟩
    · exact ⟨"https://", List.mem_cons_of_mem _ List.mem_cons_self, of_stripPrefix secure⟩
  · rintro ⟨scheme, known, read⟩
    rw [List.mem_cons, List.mem_singleton] at known
    have vouched : origin ≠ "null" := by
      rintro rfl
      rcases known with rfl | rfl
      · simp at read
      · simp at read
    refine ⟨?_, decide_eq_true vouched⟩
    rw [read]
    rcases known with rfl | rfl
    · rw [stripPrefix_append]
      rfl
    · rw [stripPrefix_append]
      rfl

/-- What an origin says of its authority. -/
theorem ofOrigin_iff {authority : List Char → Prop} {origin : String} :
    OfOrigin authority origin ↔ ∃ rest, originAuthority origin = some rest ∧ authority rest := by
  simp only [OfOrigin, originAuthority_eq_some]
  constructor
  · rintro ⟨scheme, known, rest, read, holds⟩
    exact ⟨rest, ⟨scheme, known, read⟩, holds⟩
  · rintro ⟨rest, ⟨scheme, known, read⟩, holds⟩
    exact ⟨scheme, known, rest, read, holds⟩

/-- An origin is accepted exactly if it is that of a loopback authority. -/
theorem checkOrigin_some (origin : String) :
    checkOrigin (some origin) = .ok () ↔
      OfOrigin (fun authority => isLoopbackAuthority authority = true) origin := by
  rw [ofOrigin_iff, checkOrigin]
  cases originAuthority origin with
  | none => simp
  | some rest =>
      by_cases accepted : isLoopbackAuthority rest = true
      · simp [accepted]
      · simp [accepted]

/-- **The door is exactly the loopback hosts but for the tails it drops.** A request without a host
is refused, and one without an origin is let in. A tail is what follows the bracket of `[::1]`, or
the only colon of another loopback host, without being a port. -/
theorem door_accepts_loopback (host origin : String) :
    checkHost none = .error .hostMissing ∧ checkOrigin none = .ok () ∧
    ((checkHost (some host) = .ok () ↔ LoopbackAuthority host.toList) ↔
      ¬ Overruns host.toList) ∧
    ((checkOrigin (some origin) = .ok () ↔ OfOrigin LoopbackAuthority origin) ↔
      ¬ OfOrigin Overruns origin) := by
  refine ⟨rfl, rfl, ?_, ?_⟩
  · rw [checkHost_some]
    exact accepted_iff
  · rw [checkOrigin_some, ofOrigin_iff, ofOrigin_iff, ofOrigin_iff]
    cases originAuthority origin with
    | none => simp
    | some rest => simpa using accepted_iff

/-- Another host's name gets in behind the bracket of a loopback one, and an origin whose loopback
host is a user part gets in behind the colon. -/
theorem dropped_tails_accepted :
    (¬ ∀ host : String, checkHost (some host) = .ok () ↔ LoopbackAuthority host.toList) ∧
    ¬ ∀ origin : String,
      checkOrigin (some origin) = .ok () ↔ OfOrigin LoopbackAuthority origin := by
  constructor
  · intro precise
    have overruns : Overruns ("[::1]".toList ++ ".evil.example".toList) := .bracket rfl nofun
    have loopback := (precise "[::1].evil.example").mp (by decide)
    exact overruns.accepted.2 loopback.accepted.2
  · intro precise
    have port : ¬ OptionalPort (':' :: "pw@evil.example".toList) := by
      rintro ⟨⟩
      rename_i decimal
      have digit := decimal 'p' (by decide)
      cases digit
    have overruns : Overruns ("localhost".toList ++ ':' :: "pw@evil.example".toList) :=
      .colon (by decide : "localhost" ∈ _) rfl (by decide) port
    have loopback := (precise "http://localhost:pw@evil.example").mp (by decide)
    obtain ⟨rest, read, loopback⟩ := ofOrigin_iff.mp loopback
    have known : originAuthority "http://localhost:pw@evil.example" =
        some ("localhost".toList ++ ':' :: "pw@evil.example".toList) := by decide
    rw [known] at read
    obtain rfl := Option.some.inj read
    exact overruns.accepted.2 loopback.accepted.2

end Oppen.Mcp.Guard
