import Rhc.Go.Strings
/-
  Rhc.Go.Url — `net/url.Parse`, as `altsrc` uses it on a `--config` path.
  ──────────────────────────────────────
  **`url.Parse` cuts a string into a scheme, an authority and a path, and rejects a
  control byte, a malformed escape, a bad port, a bad host byte or bad userinfo.**

  `altsrc`'s `loadDataFrom` parses the file path as a URL and asks three things of the
  result: is `Host` empty, what is `Scheme`, is `Path` empty.  The model follows
  `Parse` and the helpers it calls (`parse` with `viaRequest = false`, `getScheme`,
  `parseAuthority`, `parseHost`, `validOptionalPort`, `validUserinfo`, `unescape`) on
  the bytes of the string, and keeps of the `URL` the three fields read.  The user, the
  query, the fragment and the raw forms are computed by the code and read by nobody
  here: of them, only the errors their parsing can raise are kept.

  `net/url` is Go's standard library, not in the sources.  The check that the address
  between `[` and `]` is an IPv6 address, which recent Go releases add to `parseHost`,
  is left out.

  Main results:
    * `unescape_of_no_percent` — a string with no `%` unescapes, as a path, to itself.
    * `urlParse_of_plainAbsolute` — an absolute path with no control byte and no `#`,
      `?` or `%`, and no second leading `/`, parses to itself as `Path`, with no scheme
      and no host.
-/

namespace Rhc.Go

/-! ## §1. Bytes and strings. -/

/-- `'a' <= c && c <= 'z' || 'A' <= c && c <= 'Z'`. -/
def isLetter (c : UInt8) : Bool :=
  ('a'.toUInt8 ≤ c && c ≤ 'z'.toUInt8) || ('A'.toUInt8 ≤ c && c ≤ 'Z'.toUInt8)

/-- `'0' <= c && c <= '9'`. -/
def isDigit (c : UInt8) : Bool := '0'.toUInt8 ≤ c && c ≤ '9'.toUInt8

/-- `ishex`. -/
def isHex (c : UInt8) : Bool :=
  isDigit c || ('a'.toUInt8 ≤ c && c ≤ 'f'.toUInt8) || ('A'.toUInt8 ≤ c && c ≤ 'F'.toUInt8)

/-- `unhex`. -/
def unhex (c : UInt8) : UInt8 :=
  if isDigit c then c - '0'.toUInt8
  else if 'a'.toUInt8 ≤ c ∧ c ≤ 'f'.toUInt8 then c - 'a'.toUInt8 + 10
  else if 'A'.toUInt8 ≤ c ∧ c ≤ 'F'.toUInt8 then c - 'A'.toUInt8 + 10
  else 0

/-- `strings.Cut(s, sep)` for a one-byte `sep`: the bytes before the first `sep` and the
    bytes after it, `(s, "")` when there is none. -/
def cut (sep : UInt8) (s : GoString) : GoString × GoString :=
  (s.takeWhile (· != sep), (s.dropWhile (· != sep)).drop 1)

/-- `strings.LastIndex(s, c)` for one byte `c`; `none` is `-1`. -/
def lastIndex (c : UInt8) : GoString → Option Nat
  | [] => none
  | b :: s =>
    match lastIndex c s with
    | some i => some (i + 1)
    | none => if b = c then some 0 else none

/-- `strings.Index(s, sub)`; `none` is `-1`. -/
def index (sub : GoString) : GoString → Option Nat
  | [] => if sub = [] then some 0 else none
  | s@(_ :: rest) => if sub.isPrefixOf s then some 0 else (index sub rest).map (· + 1)

/-- `strings.ToLower` of a scheme; `getScheme` lets only ASCII bytes into one. -/
def toLowerAscii (s : GoString) : GoString :=
  s.map fun c => if 'A'.toUInt8 ≤ c ∧ c ≤ 'Z'.toUInt8 then c + 32 else c

/-! ## §2. `unescape`. -/

/-- The `encoding` modes `Parse` unescapes in. -/
inductive Encoding
  | path
  | host
  | zone
  | userPassword
  | fragment
  deriving DecidableEq, Repr

/-- `shouldEscape(c, encodeHost)`, which is also `shouldEscape(c, encodeZone)`: every byte
    but the letters, the digits, the sub-delimiters `!$&'()*+,;=`, the `:[]<>"` a host
    with a port or an IPv6 literal holds, and the unreserved marks `-_.~` (byte 39 is
    the apostrophe). -/
def shouldEscapeHost (c : UInt8) : Bool :=
  !(isLetter c || isDigit c || (utf8 "!$&()*+,;=:[]<>\"-_.~").contains c || c == 39)

/-- The errors `url.Parse` wraps in its `*url.Error`, by their text. -/
inductive URLError
  /-- "net/url: invalid control character in URL" -/
  | invalidControlCharacter
  /-- "missing protocol scheme" -/
  | missingProtocolScheme
  /-- "first path segment in URL cannot contain colon" -/
  | colonInFirstSegment
  /-- "missing ']' in host" -/
  | missingBracket
  /-- "invalid port %q after host" -/
  | invalidPort (colonPort : GoString)
  /-- "net/url: invalid userinfo" -/
  | invalidUserinfo
  /-- `EscapeError`: "invalid URL escape %q" -/
  | escape (s : GoString)
  /-- `InvalidHostError`: "invalid character %q in host name" -/
  | invalidHost (s : GoString)
  deriving DecidableEq, Repr

/-- `unescape(s, mode)`: each `%XX` decoded, every other byte kept.  A `%` not followed
    by two hex digits is an `EscapeError`; in a host an escape may only stand for a
    byte outside ASCII, or be `%25`; in a zone it may not stand for a byte a host could
    not hold, a space and `%25` apart; and a host or a zone holds no ASCII byte
    `shouldEscape` marks.  Go checks the whole string before decoding it; the first
    error from the left is the one reported either way. -/
def unescape (mode : Encoding) : GoString → Except URLError GoString
  | [] => .ok []
  | c :: s =>
    if c = '%'.toUInt8 then
      match s with
      | h1 :: h2 :: rest =>
        let v := unhex h1 <<< 4 ||| unhex h2
        let isPercent25 := h1 = '2'.toUInt8 ∧ h2 = '5'.toUInt8
        if !(isHex h1 && isHex h2) then .error (.escape [c, h1, h2])
        else if mode = .host ∧ unhex h1 < 8 ∧ ¬isPercent25 then .error (.escape [c, h1, h2])
        else if mode = .zone ∧ ¬isPercent25 ∧ v ≠ ' '.toUInt8 ∧ shouldEscapeHost v then
          .error (.escape [c, h1, h2])
        else (unescape mode rest).map (v :: ·)
      | _ => .error (.escape (c :: s))
    else if (mode = .host ∨ mode = .zone) ∧ c < 0x80 ∧ shouldEscapeHost c then
      .error (.invalidHost [c])
    else (unescape mode s).map (c :: ·)

theorem unescape_cons_of_ne {c : UInt8} (mode : Encoding) (s : GoString) (hc : c ≠ '%'.toUInt8) :
    unescape mode (c :: s) =
      if (mode = .host ∨ mode = .zone) ∧ c < 0x80 ∧ shouldEscapeHost c then .error (.invalidHost [c])
      else (unescape mode s).map (c :: ·) := by
  rw [unescape.eq_def]
  exact if_neg hc

/-- A path with no `%` is its own unescaping. -/
theorem unescape_of_no_percent {s : GoString} (h : '%'.toUInt8 ∉ s) : unescape .path s = .ok s := by
  induction s with
  | nil => rfl
  | cons c s ih =>
    rw [unescape_cons_of_ne _ _ fun hc => h (hc ▸ .head _), if_neg (by simp),
      ih fun hs => h (.tail _ hs)]
    rfl

/-! ## §3. The authority. -/

/-- `validOptionalPort`: empty, or `:` followed by digits. -/
def validOptionalPort : GoString → Bool
  | [] => true
  | c :: port => c = ':'.toUInt8 && port.all isDigit

/-- `validUserinfo`: letters, digits and `-._:~!$&'()*+,;=%@`.  Go reads the string by
    runes, and a byte outside ASCII is part of a rune outside that set. -/
def validUserinfo (s : GoString) : Bool :=
  s.all fun c => isLetter c || isDigit c || (utf8 "-._:~!$&()*+,;=%@").contains c || c == 39

/-- `parseHost`: an IP literal `[...]` with an optional port and zone, or a name with an
    optional port, unescaped as a host. -/
def parseHost (host : GoString) : Except URLError GoString :=
  if host.head? = some '['.toUInt8 then
    match lastIndex ']'.toUInt8 host with
    | none => .error .missingBracket
    | some i =>
      let colonPort := host.drop (i + 1)
      if !validOptionalPort colonPort then .error (.invalidPort colonPort)
      else
        match index (utf8 "%25") (host.take i) with
        | some zone => do
          let host1 ← unescape .host (host.take zone)
          let host2 ← unescape .zone ((host.take i).drop zone)
          let host3 ← unescape .host (host.drop i)
          pure (host1 ++ host2 ++ host3)
        | none => unescape .host host
  else
    match lastIndex ':'.toUInt8 host with
    | some i =>
      let colonPort := host.drop i
      if !validOptionalPort colonPort then .error (.invalidPort colonPort)
      else unescape .host host
    | none => unescape .host host

/-- `parseAuthority`, keeping the host: the userinfo before the last `@` is checked and
    unescaped, then dropped. -/
def parseAuthority (authority : GoString) : Except URLError GoString :=
  match lastIndex '@'.toUInt8 authority with
  | none => parseHost authority
  | some i => do
    let host ← parseHost (authority.drop (i + 1))
    let userinfo := authority.take i
    if !validUserinfo userinfo then throw .invalidUserinfo
    if userinfo.contains ':'.toUInt8 then
      let _ ← unescape .userPassword (cut ':'.toUInt8 userinfo).1
      let _ ← unescape .userPassword (cut ':'.toUInt8 userinfo).2
    else
      let _ ← unescape .userPassword userinfo
    pure host

/-! ## §4. `parse` and `Parse`. -/

/-- The fields of a `*url.URL` that `loadDataFrom` reads. -/
structure URL where
  scheme : GoString
  host : GoString
  path : GoString
  deriving DecidableEq, Repr

/-- `getScheme`'s loop from byte `i` on: a scheme is a letter, then letters, digits,
    `+`, `-` or `.`, up to a `:`; otherwise there is none and the whole string is left. -/
def getSchemeFrom (rawURL : GoString) (i : Nat) : GoString → Except URLError (GoString × GoString)
  | [] => .ok ([], rawURL)
  | c :: s =>
    if isLetter c then getSchemeFrom rawURL (i + 1) s
    else if isDigit c ∨ c = '+'.toUInt8 ∨ c = '-'.toUInt8 ∨ c = '.'.toUInt8 then
      if i = 0 then .ok ([], rawURL) else getSchemeFrom rawURL (i + 1) s
    else if c = ':'.toUInt8 then
      if i = 0 then .error .missingProtocolScheme else .ok (rawURL.take i, s)
    else .ok ([], rawURL)

/-- `getScheme`: the scheme and the rest of the string. -/
def getScheme (rawURL : GoString) : Except URLError (GoString × GoString) :=
  getSchemeFrom rawURL 0 rawURL

/-- The path and authority part of `parse`, after the scheme and the query are cut off:
    a rootless rest is opaque when there is a scheme; `//` starts an authority, unless
    there is no scheme and the rest starts with `///`. -/
def parseRest (scheme rest : GoString) : Except URLError URL :=
  if rest.head? ≠ some '/'.toUInt8 ∧ scheme ≠ [] then .ok ⟨scheme, [], []⟩
  else if rest.head? ≠ some '/'.toUInt8 ∧ (cut '/'.toUInt8 rest).1.contains ':'.toUInt8 then
    .error .colonInFirstSegment
  else if (scheme ≠ [] ∨ ¬(utf8 "///").isPrefixOf rest) ∧ (utf8 "//").isPrefixOf rest then do
    let (authority, rest) := (rest.drop 2).span (· != '/'.toUInt8)
    let host ← parseAuthority authority
    let path ← unescape .path rest
    pure ⟨scheme, host, path⟩
  else do
    let path ← unescape .path rest
    pure ⟨scheme, [], path⟩

/-- `parse(rawURL, false)`.  A trailing lone `?` is dropped, any other query cut off at
    the first `?`; both leave the bytes before the first `?`. -/
def parse (rawURL : GoString) : Except URLError URL :=
  if rawURL.any fun b => b < 0x20 || b == 0x7f then .error .invalidControlCharacter
  else if rawURL = utf8 "*" then .ok ⟨[], [], utf8 "*"⟩
  else do
    let (scheme, rest) ← getScheme rawURL
    let rest :=
      if rest.getLast? = some '?'.toUInt8 ∧ rest.count '?'.toUInt8 = 1 then rest.dropLast
      else (cut '?'.toUInt8 rest).1
    parseRest (toLowerAscii scheme) rest

/-- `url.Parse`: the string before the first `#` parsed, then the fragment unescaped.  On
    failure, the `*url.Error` `parse "<url>": <err>`, quoting the part before `#` for an
    error of `parse` and the whole string for one of the fragment. -/
def urlParse (rawURL : GoString) : Except (GoString × URLError) URL :=
  let (u, frag) := cut '#'.toUInt8 rawURL
  match parse u with
  | .error err => .error (u, err)
  | .ok url =>
    if frag = [] then .ok url
    else match unescape .fragment frag with
      | .error err => .error (rawURL, err)
      | .ok _ => .ok url

/-! ## §5. Absolute paths. -/

/-- An absolute path `url.Parse` keeps as it is: a leading `/` not followed by a second
    one, and no control byte, `#`, `?` or `%`. -/
def PlainAbsolute (p : GoString) : Prop :=
  p.head? = some '/'.toUInt8 ∧ p.tail.head? ≠ some '/'.toUInt8 ∧
    ∀ b ∈ p, 0x20 ≤ b ∧ b ≠ 0x7f ∧ b ≠ '#'.toUInt8 ∧ b ≠ '?'.toUInt8 ∧ b ≠ '%'.toUInt8

instance (p : GoString) : Decidable (PlainAbsolute p) :=
  inferInstanceAs (Decidable (_ ∧ _ ∧ ∀ b ∈ p, _))

theorem cut_of_not_mem {sep : UInt8} {s : GoString} (h : sep ∉ s) : cut sep s = (s, []) := by
  have hall : ∀ b ∈ s, (b != sep) = true := fun b hb => bne_iff_ne.mpr fun h' => h (h' ▸ hb)
  simp [cut, List.takeWhile_eq_self_iff.mpr hall, List.dropWhile_eq_nil_iff.mpr hall]

/-- **Absolute paths are file paths.**  An absolute path with no control byte, no `#`,
    `?` or `%` and a single leading `/` parses to a URL with no scheme, no host, and
    the path itself. -/
theorem urlParse_of_plainAbsolute {p : GoString} (hp : PlainAbsolute p) :
    urlParse p = .ok ⟨[], [], p⟩ := by
  obtain ⟨hhead, hsecond, hbytes⟩ := hp
  rcases p with _ | ⟨_, s⟩ <;> cases hhead
  have hnot : ∀ x ∈ '/'.toUInt8 :: s, x ≠ '#'.toUInt8 ∧ x ≠ '?'.toUInt8 ∧ x ≠ '%'.toUInt8 :=
    fun x hx => (hbytes x hx).2.2
  have hq : '?'.toUInt8 ∉ '/'.toUInt8 :: s := fun h => (hnot _ h).2.1 rfl
  have hparse : parse ('/'.toUInt8 :: s) = parseRest [] ('/'.toUInt8 :: s) := by
    have hctl : (('/'.toUInt8 :: s).any fun b => b < 0x20 || b == 0x7f) = false := by
      simp only [List.any_eq_false, Bool.or_eq_true, decide_eq_true_eq, beq_iff_eq, not_or]
      exact fun b hb => ⟨UInt8.not_lt.mpr (hbytes b hb).1, (hbytes b hb).2.1⟩
    have hstar : '/'.toUInt8 :: s ≠ utf8 "*" := fun h => by cases (List.cons.inj h).1
    have hscheme : getScheme ('/'.toUInt8 :: s) = .ok ([], '/'.toUInt8 :: s) := rfl
    rw [parse, if_neg (by rw [hctl]; decide), if_neg hstar, hscheme]
    dsimp only [bind, Except.bind, toLowerAscii, List.map_nil]
    rw [if_neg fun h => hq (List.mem_of_mem_getLast? h.1), cut_of_not_mem hq]
  have hslash : ¬(utf8 "//").isPrefixOf ('/'.toUInt8 :: s) := by
    cases s with
    | nil => decide
    | cons d s =>
      have h2 : utf8 "//" = ['/'.toUInt8, '/'.toUInt8] := rfl
      rw [List.isPrefixOf_iff_prefix, h2, List.cons_prefix_cons, List.cons_prefix_cons]
      exact fun h => hsecond (by rw [← h.2.1]; rfl)
  have hrest : parseRest [] ('/'.toUInt8 :: s) = .ok ⟨[], [], '/'.toUInt8 :: s⟩ := by
    rw [parseRest, if_neg (by simp), if_neg (by simp), if_neg (by simp [hslash]),
      unescape_of_no_percent fun h => (hnot _ h).2.2 rfl]
    rfl
  rw [urlParse, cut_of_not_mem fun h => (hnot _ h).1 rfl]
  dsimp only
  rw [hparse, hrest]
  rfl

end Rhc.Go
