import BrowserSessions.Proofs.Url.Escape
import BrowserSessions.Proofs.Text.Bytes

/-!
# Reading `scheme://host/path?query`

An address written as a lowercase scheme, `://`, a plain host name, a path and a query reads back
into exactly those parts (`parse_hierarchical`): the host is the one written, and the query text
is kept as it was written. The bytes of each part are given by byte classes: lowercase letters
for the scheme, letters, digits, `.` and `-` for the host, and printable bytes other than `#`
and `?` for the path and the query.

The first pair of a query `key=value&…` is the key with its value read back
(`parseQuery_first`), when neither holds a byte that splits a query.
-/

namespace BrowserSessions.Url

/-! ## Byte classes of the parts -/

/-- Lowercase ASCII letters, the bytes of a scheme in normal form. -/
def isLowerLetter (b : UInt8) : Bool := byte 'a' ≤ b && b ≤ byte 'z'

/-- Bytes of a plain host name: lowercase letters, digits, `.` and `-`. -/
def isHostNameByte (b : UInt8) : Bool :=
  isLowerLetter b || (byte '0' ≤ b && b ≤ byte '9') || b == byte '.' || b == byte '-'

/-- Bytes that may stand in a query: printable, and neither `#` nor `?`. -/
def isQueryByte (b : UInt8) : Bool := isPrintable b && b != byte '#' && b != byte '?'

/-- Bytes that may stand in a path and read as themselves there. -/
def isPathByte (b : UInt8) : Bool := isQueryByte b && readsAsItself .path b

/-- Bytes of an address before its fragment: printable, and not `#`. -/
def isReferenceByte (b : UInt8) : Bool := isPrintable b && b != byte '#'

section Classes

variable {b : UInt8}

theorem isHostNameByte_of_isLowerLetter (h : isLowerLetter b = true) : isHostNameByte b = true := by
  simp [isHostNameByte, h]

theorem isLetter_of_isLowerLetter (h : isLowerLetter b = true) : isLetter b = true := by
  simp only [isLowerLetter, isLetter] at h ⊢
  simp [h]

/-- A host-name byte is a query byte that ends neither the host nor the authority, and that a
    host takes as it is. -/
theorem isHostNameByte_spec (h : isHostNameByte b = true) :
    isQueryByte b = true ∧ b ∉ [byte '/', byte '@', byte ':', byte '['] ∧
      readsAsItself .host b = true := by
  revert h
  refine forall_byte (P := fun b => isHostNameByte b = true →
    isQueryByte b = true ∧ b ∉ [byte '/', byte '@', byte ':', byte '['] ∧
      readsAsItself .host b = true) ?_ b
  decide +kernel

theorem isReferenceByte_of_isQueryByte (h : isQueryByte b = true) : isReferenceByte b = true := by
  simp only [isQueryByte, isReferenceByte, Bool.and_eq_true] at h ⊢
  exact h.1

theorem isQueryByte_of_isPathByte (h : isPathByte b = true) : isQueryByte b = true := by
  simp only [isPathByte, Bool.and_eq_true] at h
  exact h.1

theorem isQueryByte_of_isHostNameByte (h : isHostNameByte b = true) : isQueryByte b = true :=
  (isHostNameByte_spec h).1

theorem ne_of_isQueryByte (h : isQueryByte b = true) : b ≠ byte '#' ∧ b ≠ byte '?' := by
  simp only [isQueryByte, Bool.and_eq_true, bne_iff_ne] at h
  exact ⟨h.1.2, h.2⟩

theorem ne_of_isReferenceByte (h : isReferenceByte b = true) : b ≠ byte '#' := by
  simp only [isReferenceByte, Bool.and_eq_true, bne_iff_ne] at h
  exact h.2

theorem isQueryByte_of_isQuerySafe (h : isQuerySafe b = true) : isQueryByte b = true := by
  obtain ⟨hp, hd⟩ := isPrintable_of_isQuerySafe h
  have hhash : b ≠ byte '#' := fun e => hd (by simp [e, delimiters])
  have hq : b ≠ byte '?' := fun e => hd (by simp [e, delimiters])
  simp [isQueryByte, hp, hhash, hq]

theorem lt_of_isQueryByte (h : isQueryByte b = true) : b < 0x80 := by
  revert h
  refine forall_byte (P := fun b => isQueryByte b = true → b < 0x80) ?_ b
  decide +kernel

theorem not_control_of_isPrintable (h : isPrintable b = true) : (b < 0x20 || b == 0x7F) = false := by
  revert h
  refine forall_byte (P := fun b => isPrintable b = true → (b < 0x20 || b == 0x7F) = false) ?_ b
  decide +kernel

end Classes

theorem hasControlByte_eq_false {bs : Bytes} (h : ∀ b ∈ bs, isReferenceByte b = true) :
    hasControlByte bs = false := by
  simp only [hasControlByte, List.any_eq_false]
  intro b hb
  have hb := h b hb
  simp only [isReferenceByte, Bool.and_eq_true] at hb
  simp [not_control_of_isPrintable hb.1]

/-! ## The parts before the query -/

theorem splitScheme_go_letters {bs xs rest : Bytes} (acc : Bytes)
    (hx : ∀ b ∈ xs, isLowerLetter b = true) (hne : acc ++ xs ≠ []) :
    splitScheme.go bs (xs ++ byte ':' :: rest) acc = .ok (acc.reverse ++ xs, rest) := by
  induction xs generalizing acc with
  | nil =>
    have hacc : acc.isEmpty = false := by simpa using hne
    have hcolon : isLetter (byte ':') = false ∧
        ((byte '0' ≤ byte ':' && byte ':' ≤ byte '9') || byteIn (byte ':') "+-.") = false := by
      decide
    simp [splitScheme.go, hacc, hcolon]
  | cons x xs ih =>
    have hl : isLetter x = true := isLetter_of_isLowerLetter (hx x (by simp))
    simp only [List.cons_append, splitScheme.go, hl, if_true]
    rw [ih _ (fun b hb => hx b (by simp [hb])) (by simp)]
    simp

/-- A scheme of letters ended by `:` is split off. -/
theorem splitScheme_letters {xs : Bytes} (hx : ∀ b ∈ xs, isLowerLetter b = true) (hne : xs ≠ [])
    (rest : Bytes) : splitScheme (xs ++ byte ':' :: rest) = .ok (xs, rest) := by
  rw [splitScheme]
  simpa using splitScheme_go_letters [] hx (by simpa using hne)

theorem lowerAscii_of_lower {xs : Bytes} (hx : ∀ b ∈ xs, isLowerLetter b = true) :
    lowerAscii xs = xs := by
  induction xs with
  | nil => rfl
  | cons x xs ih =>
    have hup : (byte 'A' ≤ x && x ≤ byte 'Z') = false := by
      have h := hx x (by simp)
      revert h
      refine forall_byte (P := fun x =>
        isLowerLetter x = true → (byte 'A' ≤ x && x ≤ byte 'Z') = false) ?_ x
      decide +kernel
    have ih := ih fun b hb => hx b (by simp [hb])
    simp only [lowerAscii, List.map_cons] at ih ⊢
    rw [ih]
    simp [hup]

theorem splitQuery_append {front query : Bytes} (hf : byte '?' ∉ front) (hq : byte '?' ∉ query) :
    splitQuery (front ++ byte '?' :: query) = (front, query, query.isEmpty) := by
  rcases query.eq_nil_or_concat with rfl | ⟨qs, q, rfl⟩
  · simp [splitQuery, List.count_eq_zero.2 hf]
  · have hq' : q ≠ byte '?' := fun e => hq (by simp [e])
    have hl : (byte '?' :: (qs ++ [q])).getLast? = some q := by
      rw [← List.cons_append, List.getLast?_concat]
    simp [splitQuery, hl, hq', Bytes.splitOnce_append_cons hf]

theorem splitAuthority_append {host p : Bytes} (hh : byte '/' ∉ host) :
    splitAuthority (host ++ byte '/' :: p) = (host, byte '/' :: p) := by
  simp [splitAuthority, Bytes.idxOf?_append_cons hh]

section Host

variable {host : Bytes} (h : ∀ b ∈ host, isHostNameByte b = true)
include h

theorem not_mem_of_isHostName {d : UInt8} (hd : d ∈ [byte '/', byte '@', byte ':', byte '[']) :
    d ∉ host := fun hm => (isHostNameByte_spec (h d hm)).2.1 hd

/-- A plain host name is an authority without user information. -/
theorem parseAuthority_hostName : parseAuthority host = .ok (none, host) := by
  have hat := Bytes.lastIdxOf?_of_not_mem (not_mem_of_isHostName h (d := byte '@') (by simp))
  have hcolon := Bytes.lastIdxOf?_of_not_mem (not_mem_of_isHostName h (d := byte ':') (by simp))
  have hbr : host.head? ≠ some (byte '[') := fun e =>
    not_mem_of_isHostName h (d := byte '[') (by simp) (List.mem_of_mem_head? e)
  have hun : unescape .host host = .ok host :=
    unescape_of_readsAsItself fun b hb => (isHostNameByte_spec (h b hb)).2.2
  simp [parseAuthority, parseHost, hat, hcolon, hbr, hun, liftEscape]
  rfl

/-- A plain host name has no port and no brackets. -/
theorem splitHostPort_hostName : splitHostPort host = (host, []) := by
  have hcolon := Bytes.lastIdxOf?_of_not_mem (not_mem_of_isHostName h (d := byte ':') (by simp))
  have hbr : host.head? ≠ some (byte '[') := fun e =>
    not_mem_of_isHostName h (d := byte '[') (by simp) (List.mem_of_mem_head? e)
  simp [splitHostPort, hcolon, hbr]

end Host

/-! ## Whole addresses -/

section Address

variable {scheme host path query : Bytes}
  (hscheme : scheme ≠ []) (hs : ∀ b ∈ scheme, isLowerLetter b = true)
  (hh : ∀ b ∈ host, isHostNameByte b = true) (hp : ∀ b ∈ byte '/' :: path, isPathByte b = true)
  (hq : ∀ b ∈ query, isQueryByte b = true)
include hscheme hs hh hp hq

omit hscheme in
theorem isReferenceByte_hierarchical :
    ∀ b ∈ scheme ++ byte ':' :: byte '/' :: byte '/' ::
      (host ++ byte '/' :: path ++ byte '?' :: query), isReferenceByte b = true := by
  have hpath : ∀ b ∈ byte '/' :: path, isReferenceByte b = true := fun b hb =>
    isReferenceByte_of_isQueryByte (isQueryByte_of_isPathByte (hp b hb))
  have hscheme' : ∀ b ∈ scheme, isReferenceByte b = true := fun b hb =>
    isReferenceByte_of_isQueryByte
      (isQueryByte_of_isHostNameByte (isHostNameByte_of_isLowerLetter (hs b hb)))
  have hhost : ∀ b ∈ host, isReferenceByte b = true := fun b hb =>
    isReferenceByte_of_isQueryByte (isQueryByte_of_isHostNameByte (hh b hb))
  have hquery : ∀ b ∈ query, isReferenceByte b = true := fun b hb =>
    isReferenceByte_of_isQueryByte (hq b hb)
  simp only [List.forall_mem_append, List.forall_mem_cons] at hpath ⊢
  exact ⟨hscheme', by decide, by decide, by decide, ⟨hhost, hpath⟩, by decide, hquery⟩

/-- The reference part of `scheme://host/path?query`: an authority with the host alone, then
    the path, with the query as written. -/
theorem parseReference_hierarchical :
    parseReference (scheme ++ byte ':' :: byte '/' :: byte '/' ::
        (host ++ byte '/' :: path ++ byte '?' :: query)) false =
      Address.withPath { scheme, user := none, host, rawQuery := query, forceQuery := query.isEmpty }
        (byte '/' :: path) := by
  have href := isReferenceByte_hierarchical hs hh hp hq
  have hctl := hasControlByte_eq_false href
  have hstar : scheme ++ byte ':' :: byte '/' :: byte '/' ::
      (host ++ byte '/' :: (path ++ byte '?' :: query)) ≠ [byte '*'] := fun e => by
    have := congrArg List.length e
    simp at this
    omega
  -- no `?` before the query and none in it, so the first `?` starts the query
  have hfront : byte '?' ∉ byte '/' :: byte '/' :: (host ++ byte '/' :: path) := by
    simp only [List.mem_cons, List.mem_append, not_or]
    refine ⟨by decide, by decide, fun hm => ?_, by decide, fun hm => ?_⟩
    · exact (ne_of_isQueryByte (isQueryByte_of_isHostNameByte (hh _ hm))).2 rfl
    · exact (ne_of_isQueryByte (isQueryByte_of_isPathByte
        (hp _ (List.mem_cons_of_mem _ hm)))).2 rfl
  have hquery : byte '?' ∉ query := fun hm => (ne_of_isQueryByte (hq _ hm)).2 rfl
  have hq3 : splitQuery (byte '/' :: byte '/' :: (host ++ byte '/' :: path ++ byte '?' :: query)) =
      (byte '/' :: byte '/' :: (host ++ byte '/' :: path), query, query.isEmpty) := by
    simpa using splitQuery_append hfront hquery
  have hauth : splitAuthority (host ++ byte '/' :: path) = (host, byte '/' :: path) :=
    splitAuthority_append (not_mem_of_isHostName hh (by simp))
  have hslashes : Bytes.ofString "//" = [byte '/', byte '/'] := by decide
  simp only [parseReference, hctl, splitScheme_letters hs hscheme, lowerAscii_of_lower hs, hq3,
    hslashes]
  simp [hauth, parseAuthority_hostName hh, hscheme, hstar]

/-- `scheme://host/path?query` reads back into its parts. -/
theorem parse_hierarchical :
    parse (scheme ++ byte ':' :: byte '/' :: byte '/' ::
        (host ++ byte '/' :: path ++ byte '?' :: query)) =
      .ok { scheme, user := none, host, path := byte '/' :: path,
            rawPath := if escape .path (byte '/' :: path) == byte '/' :: path then []
              else byte '/' :: path,
            rawQuery := query, forceQuery := query.isEmpty } := by
  have hnf : byte '#' ∉ scheme ++ byte ':' :: byte '/' :: byte '/' ::
      (host ++ byte '/' :: path ++ byte '?' :: query) := fun hm =>
    ne_of_isReferenceByte (isReferenceByte_hierarchical hs hh hp hq _ hm) rfl
  have hpath : unescape .path (byte '/' :: path) = .ok (byte '/' :: path) :=
    unescape_of_readsAsItself fun b hb => by
      have := hp b hb
      simp only [isPathByte, Bool.and_eq_true] at this
      exact this.2
  simp only [parse, Bytes.splitOnce_of_not_mem hnf,
    parseReference_hierarchical hscheme hs hh hp hq]
  simp [Address.withPath, hpath, liftEscape]

end Address

/-! ## The first pair of a query -/

theorem splitOn_go_of_not_mem {sep : UInt8} {xs : Bytes} (h : sep ∉ xs) (acc : Bytes) :
    splitOn.go sep xs acc = [acc.reverse ++ xs] := by
  induction xs generalizing acc with
  | nil => simp [splitOn.go]
  | cons x xs ih =>
    have hx : (x == sep) = false := by simpa using fun e => h (by simp [e])
    simp [splitOn.go, hx, ih fun hm => h (by simp [hm])]

/-- Splitting at a separator: the part before it, then the splits of the rest. -/
theorem splitOn_go_append_cons {sep : UInt8} {xs : Bytes} (h : sep ∉ xs) (ys acc : Bytes) :
    splitOn.go sep (xs ++ sep :: ys) acc = (acc.reverse ++ xs) :: splitOn.go sep ys [] := by
  induction xs generalizing acc with
  | nil => simp [splitOn.go]
  | cons x xs ih =>
    have hx : (x == sep) = false := by simpa using fun e => h (by simp [e])
    simp [splitOn.go, hx, ih fun hm => h (by simp [hm])]

/-- A query that starts with a pair without `&`, followed by nothing or by `&…`, splits with that
    pair first. -/
theorem splitOn_first {pair tail : Bytes} (hpair : byte '&' ∉ pair)
    (htail : tail = [] ∨ tail.head? = some (byte '&')) :
    ∃ more, splitOn (pair ++ tail) (byte '&') = pair :: more := by
  rcases htail with rfl | htail
  · exact ⟨[], by simp [splitOn, splitOn_go_of_not_mem hpair]⟩
  · obtain ⟨t, rfl⟩ : ∃ t, tail = byte '&' :: t := by
      cases tail with
      | nil => simp at htail
      | cons c t => exact ⟨t, by simpa using htail⟩
    exact ⟨splitOn.go (byte '&') t [], by simp [splitOn, splitOn_go_append_cons hpair]⟩

/-- The first pair of `key=value…` is the key with the value read back. -/
theorem parseQuery_first {key raw value tail : Bytes} (hk : ∀ d ∈ delimiters, d ∉ key)
    (hamp : byte '&' ∉ raw) (hsemi : byte ';' ∉ raw)
    (hkey : queryUnescape key = .ok key) (hval : queryUnescape raw = .ok value)
    (htail : tail = [] ∨ tail.head? = some (byte '&')) :
    ∃ more, parseQuery (key ++ byte '=' :: raw ++ tail) = (key, value) :: more := by
  have hpair : byte '&' ∉ key ++ byte '=' :: raw := by
    simp only [List.mem_append, List.mem_cons, not_or]
    exact ⟨hk _ (by decide), by decide, hamp⟩
  have hsk : byte ';' ∉ key := hk _ (by decide)
  have hse : byte ';' ≠ byte '=' := by decide
  have heq : Bytes.splitOnce (key ++ byte '=' :: raw) (byte '=') = (key, some raw) :=
    Bytes.splitOnce_append_cons (hk _ (by decide))
  obtain ⟨more, hsplit⟩ := splitOn_first hpair htail
  have hne : (key ++ byte '=' :: raw ++ tail).isEmpty = false := by simp
  simp only [parseQuery, hne, hsplit, List.filterMap_cons]
  simp [hsk, hse, hsemi, heq, hkey, hval]

end BrowserSessions.Url
