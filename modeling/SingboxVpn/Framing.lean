import SingboxVpn.Lib.Pieces
import SingboxVpn.Lib.Text
import SingboxVpn.Lib.Utf8

/-!
# The destination header

`crates/common/src/framing.rs`: one header names the destination of a connection, and is read from a
buffer or from a stream.
-/

namespace SingboxVpn.Framing

/-! ### The codec -/

/-- The version byte of a header. -/
def VERSION : UInt8 := 1

/-- The longest host name in a header, in bytes. -/
def MAX_HOST_LEN : Nat := 255

/-- Why a header is refused. -/
inductive FramingError where
  | unsupportedVersion (version : UInt8)
  | hostTooLong (len : Nat)
  | invalidUtf8
deriving DecidableEq, Repr

def FramingError.display : FramingError → String
  | .unsupportedVersion v => "unsupported framing version " ++ toString v.toNat
  | .hostTooLong n =>
    "host length " ++ toString n ++ " exceeds max " ++ toString MAX_HOST_LEN
  | .invalidUtf8 => "host is not valid utf-8"

def toBeBytes (n : UInt16) : List UInt8 := [UInt8.ofNat (n.toNat / 256), UInt8.ofNat n.toNat]

def fromBeBytes (hi lo : UInt8) : UInt16 := UInt16.ofNat (256 * hi.toNat + lo.toNat)

/-- Version, length, host and port. -/
def encodeDestination (host : String) (port : UInt16) : Except FramingError (List UInt8) :=
  let hostBytes := Utf8.bytes host.toList
  if MAX_HOST_LEN < hostBytes.length then .error (.hostTooLong hostBytes.length)
  else
    .ok (VERSION :: toBeBytes (UInt16.ofNat hostBytes.length) ++ hostBytes ++ toBeBytes port)

/-- The destination and the number of bytes it takes, or `none` if there are too few. -/
def decodeDestination (buf : List UInt8) :
    Except FramingError (Option (String × UInt16 × Nat)) :=
  if buf.isEmpty then .ok none
  else
    let version := buf.getD 0 0
    if version ≠ VERSION then .error (.unsupportedVersion version)
    else if buf.length < 3 then .ok none
    else
      let hostLen := (fromBeBytes (buf.getD 1 0) (buf.getD 2 0)).toNat
      if MAX_HOST_LEN < hostLen then .error (.hostTooLong hostLen)
      else
        let needed := 3 + hostLen + 2
        if buf.length < needed then .ok none
        else
          match Utf8.fromUtf8 ((buf.drop 3).take hostLen) with
          | none => .error .invalidUtf8
          | some host =>
            let port := fromBeBytes (buf.getD (3 + hostLen) 0) (buf.getD (3 + hostLen + 1) 0)
            .ok (some (host, port, needed))

/-! ### Streams -/

/-- `std::io::Error`, as far as this code makes it or passes it on. -/
inductive IoError where
  | unexpectedEof
  | invalidData (message : String)
  | other (message : String)
deriving DecidableEq, Repr

abbrev ByteStream := Pieces IoError UInt8

/-- A computation that reads from a stream. -/
abbrev Read (α : Type) := StateT ByteStream (Except IoError) α

def readExact (n : Nat) : Read (List UInt8) := Pieces.readExact .unexpectedEof n

def readU8 : Read UInt8 := do
  let bs ← readExact 1
  return bs.getD 0 0

def readU16 : Read UInt16 := do
  let bs ← readExact 2
  return fromBeBytes (bs.getD 0 0) (bs.getD 1 0)

def refuse (e : FramingError) {α : Type} : Read α := fun _ => .error (.invalidData e.display)

/-- Read a header from a stream. -/
def readDestination : Read (String × UInt16) := do
  let version ← readU8
  if version ≠ VERSION then refuse (.unsupportedVersion version)
  else
    let hostLen := (← readU16).toNat
    if MAX_HOST_LEN < hostLen then refuse (.hostTooLong hostLen)
    else
      let hostBuf ← readExact hostLen
      match Utf8.fromUtf8 hostBuf with
      | none => refuse .invalidUtf8
      | some host =>
        let port ← readU16
        return (host, port)

/-! ### Encoding and decoding -/

@[simp] theorem fromBeBytes_toBeBytes (n : UInt16) :
    fromBeBytes ((toBeBytes n).getD 0 0) ((toBeBytes n).getD 1 0) = n := by
  have hn := n.toNat_lt
  apply UInt16.toNat_inj.mp
  simp only [toBeBytes, fromBeBytes, List.getD_cons_zero, List.getD_cons_succ, UInt16.toNat_ofNat',
    UInt8.toNat_ofNat']
  omega

theorem toBeBytes_fromBeBytes (hi lo : UInt8) : toBeBytes (fromBeBytes hi lo) = [hi, lo] := by
  have hhi := hi.toNat_lt
  have hlo := lo.toNat_lt
  have hn : (fromBeBytes hi lo).toNat = 256 * hi.toNat + lo.toNat := by
    rw [fromBeBytes, UInt16.toNat_ofNat']
    omega
  simp only [toBeBytes, hn, List.cons.injEq, and_true]
  constructor
  · apply UInt8.toNat_inj.mp
    rw [UInt8.toNat_ofNat']
    omega
  · apply UInt8.toNat_inj.mp
    rw [UInt8.toNat_ofNat']
    omega

def frame (host : String) (port : UInt16) : List UInt8 :=
  VERSION :: toBeBytes (UInt16.ofNat (Utf8.bytes host.toList).length) ++
    Utf8.bytes host.toList ++ toBeBytes port

section Codec
variable {host : String} {port : UInt16} {buf pre rest : List UInt8} {n : Nat}

theorem encodeDestination_iff :
    encodeDestination host port = .ok buf ↔
      (Utf8.bytes host.toList).length ≤ MAX_HOST_LEN ∧ buf = frame host port := by
  unfold encodeDestination
  dsimp only
  split
  · next h => exact iff_of_false nofun fun h' => absurd h'.1 (Nat.not_le.mpr h)
  · next h =>
    rw [Except.ok.injEq, eq_comm]
    exact (and_iff_right (Nat.not_lt.mp h)).symm

@[simp] theorem length_frame (host : String) (port : UInt16) :
    (frame host port).length = 3 + (Utf8.bytes host.toList).length + 2 := by
  simp only [frame, toBeBytes, List.length_append, List.length_cons, List.length_nil]

theorem decodeDestination_cons (hi lo : UInt8) (body : List UInt8) :
    decodeDestination (VERSION :: hi :: lo :: body) =
      if MAX_HOST_LEN < (fromBeBytes hi lo).toNat then .error (.hostTooLong (fromBeBytes hi lo).toNat)
      else if body.length < (fromBeBytes hi lo).toNat + 2 then .ok none
      else
        match Utf8.fromUtf8 (body.take (fromBeBytes hi lo).toNat) with
        | none => .error .invalidUtf8
        | some host =>
          .ok (some (host, fromBeBytes (body.getD (fromBeBytes hi lo).toNat 0)
            (body.getD ((fromBeBytes hi lo).toNat + 1) 0), 3 + (fromBeBytes hi lo).toNat + 2)) := by
  have hshort : ¬ (VERSION :: hi :: lo :: body).length < 3 := by simp
  have hneeded : (VERSION :: hi :: lo :: body).length < 3 + (fromBeBytes hi lo).toNat + 2 ↔
      body.length < (fromBeBytes hi lo).toNat + 2 := by
    simp only [List.length_cons]
    omega
  have hgetD : ∀ k, (VERSION :: hi :: lo :: body).getD (3 + k) 0 = body.getD k 0 := by
    intro k
    rw [Nat.add_comm]
    rfl
  unfold decodeDestination
  rw [if_neg (by simp), if_neg (by simp), if_neg hshort]
  simp only [List.getD_cons_succ, List.getD_cons_zero, hneeded, Nat.add_assoc 3 _ 1, hgetD]
  rfl

theorem getD_port (hostBytes rest : List UInt8) (port : UInt16) :
    fromBeBytes ((hostBytes ++ toBeBytes port ++ rest).getD hostBytes.length 0)
      ((hostBytes ++ toBeBytes port ++ rest).getD (hostBytes.length + 1) 0) = port := by
  have h := fromBeBytes_toBeBytes port
  simpa [toBeBytes, List.getD_eq_getElem?_getD, List.getElem?_append_right] using h

theorem toNat_hostLen {hostBytes : List UInt8} (h : hostBytes.length ≤ MAX_HOST_LEN) :
    (UInt16.ofNat hostBytes.length).toNat = hostBytes.length :=
  UInt16.toNat_ofNat_of_lt' (Nat.lt_of_le_of_lt h (by decide))

theorem decodeDestination_frame (h : (Utf8.bytes host.toList).length ≤ MAX_HOST_LEN) :
    decodeDestination (frame host port ++ rest) =
      .ok (some (host, port, (frame host port).length)) := by
  have hlen : (fromBeBytes (UInt8.ofNat ((UInt16.ofNat (Utf8.bytes host.toList).length).toNat / 256))
      (UInt8.ofNat (UInt16.ofNat (Utf8.bytes host.toList).length).toNat)).toNat =
      (Utf8.bytes host.toList).length :=
    (congrArg UInt16.toNat (fromBeBytes_toBeBytes _)).trans (toNat_hostLen h)
  have hbody : frame host port ++ rest =
      VERSION :: UInt8.ofNat ((UInt16.ofNat (Utf8.bytes host.toList).length).toNat / 256) ::
        UInt8.ofNat (UInt16.ofNat (Utf8.bytes host.toList).length).toNat ::
          (Utf8.bytes host.toList ++ toBeBytes port ++ rest) := by
    simp [frame, toBeBytes]
  rw [hbody, decodeDestination_cons, hlen, if_neg (Nat.not_lt.mpr h), if_neg, getD_port,
    List.append_assoc, List.take_left, Utf8.fromUtf8_iff.mpr rfl, length_frame]
  simp [toBeBytes]

theorem eq_take_append_two {body : List UInt8} {k : Nat} (h : k + 2 ≤ body.length) :
    body = body.take k ++ ([body.getD k 0, body.getD (k + 1) 0] ++ body.drop (k + 2)) := by
  conv_lhs => rw [← List.take_append_drop k body, List.drop_eq_getElem_cons (by omega),
    List.drop_eq_getElem_cons (by omega)]
  simp [List.getD_eq_getElem?_getD, List.getElem?_eq_getElem (show k < body.length by omega),
    List.getElem?_eq_getElem (show k + 1 < body.length by omega)]

theorem decodeDestination_version {version : UInt8} (h : version ≠ VERSION) (body : List UInt8) :
    decodeDestination (version :: body) = .error (.unsupportedVersion version) := by
  unfold decodeDestination
  rw [if_neg (by simp)]
  exact if_pos h

theorem decodeDestination_iff :
    decodeDestination buf = .ok (some (host, port, n)) ↔
      ∃ hdr rest, encodeDestination host port = .ok hdr ∧ buf = hdr ++ rest ∧ n = hdr.length := by
  simp only [encodeDestination_iff]
  constructor
  · intro h
    rcases buf with _ | ⟨version, body⟩
    · cases h
    · by_cases hversion : version = VERSION
      · subst hversion
        rcases body with _ | ⟨hi, _ | ⟨lo, body⟩⟩
        · cases h
        · cases h
        · rw [decodeDestination_cons] at h
          split at h
          · cases h
          · split at h
            · cases h
            · next hmax hneeded =>
              split at h
              · cases h
              · next host' hhost =>
                cases h
                have hbytes := Utf8.fromUtf8_iff.mp hhost
                have hlen : (Utf8.bytes host.toList).length = (fromBeBytes hi lo).toNat := by
                  rw [hbytes, List.length_take]
                  omega
                refine ⟨_, body.drop ((fromBeBytes hi lo).toNat + 2),
                  ⟨by rw [hlen]; exact Nat.not_lt.mp hmax, rfl⟩, ?_, by rw [length_frame, hlen]⟩
                rw [frame, hlen, UInt16.ofNat_toNat, toBeBytes_fromBeBytes, hbytes,
                  toBeBytes_fromBeBytes, List.append_assoc, List.append_assoc,
                  ← eq_take_append_two (Nat.not_lt.mp hneeded)]
                rfl
      · rw [decodeDestination_version hversion] at h
        cases h
  · rintro ⟨_, rest, ⟨hlen, rfl⟩, rfl, rfl⟩
    exact decodeDestination_frame hlen

theorem decodeDestination_prefix (hencode : encodeDestination host port = .ok buf)
    (hpre : pre <+: buf) (hne : pre ≠ buf) : decodeDestination pre = .ok none := by
  obtain ⟨hlen, rfl⟩ := encodeDestination_iff.mp hencode
  have hshort : pre.length < (frame host port).length :=
    Nat.lt_of_le_of_ne hpre.length_le fun heq => hne (hpre.eq_of_length heq)
  obtain ⟨rest, hrest⟩ := hpre
  rw [length_frame] at hshort
  -- the version, the two bytes of the length, and then a part of the host and the port
  rcases pre with _ | ⟨version, _ | ⟨hi, _ | ⟨lo, body⟩⟩⟩
  · rfl
  · cases (List.cons.inj hrest).1
    rfl
  · cases (List.cons.inj hrest).1
    rfl
  · simp only [frame, toBeBytes, List.cons_append, List.nil_append, List.cons.injEq] at hrest
    obtain ⟨rfl, rfl, rfl, -⟩ := hrest
    have hhostLen := (congrArg UInt16.toNat (fromBeBytes_toBeBytes _)).trans (toNat_hostLen hlen)
    simp only [toBeBytes, List.getD_cons_zero, List.getD_cons_succ] at hhostLen
    rw [decodeDestination_cons, hhostLen, if_neg (Nat.not_lt.mpr hlen), if_pos]
    simp only [List.length_cons] at hshort
    omega

end Codec

/-! ### Reading from a stream -/

section Stream
variable {α β : Type} {r r' : ByteStream} {host : String} {port : UInt16} {rest : List UInt8}
  {n : Nat}

theorem Read.bind_ok {m : Read α} {k : α → Read β} {b : β} :
    (m >>= k) r = .ok (b, r') ↔ ∃ a mid, m r = .ok (a, mid) ∧ k a mid = .ok (b, r') := by
  show (m r >>= fun p => k p.1 p.2) = _ ↔ _
  cases m r with
  | error e => exact iff_of_false nofun nofun
  | ok p => exact ⟨fun h => ⟨p.1, p.2, rfl, h⟩, fun ⟨_, _, hp, h⟩ => by cases hp; exact h⟩

theorem readU8_ok {b : UInt8} (h : readU8 r = .ok (b, r')) : r.content = b :: r'.content := by
  obtain ⟨bs, mid, hread, hret⟩ := Read.bind_ok.mp h
  cases hret
  obtain ⟨hcontent, hlen⟩ := Pieces.readExact_ok hread
  obtain ⟨b, rfl⟩ := List.length_eq_one_iff.mp hlen
  exact hcontent

theorem readU16_ok {n : UInt16} (h : readU16 r = .ok (n, r')) :
    r.content = toBeBytes n ++ r'.content := by
  obtain ⟨bs, mid, hread, hret⟩ := Read.bind_ok.mp h
  cases hret
  obtain ⟨hcontent, hlen⟩ := Pieces.readExact_ok hread
  obtain ⟨hi, lo, rfl⟩ := List.length_eq_two.mp hlen
  rw [hcontent, List.getD_cons_zero, List.getD_cons_succ, List.getD_cons_zero,
    toBeBytes_fromBeBytes]

theorem readU8_of_cons {b : UInt8} (h : r.content = b :: rest) :
    ∃ r', readU8 r = .ok (b, r') ∧ r'.content = rest := by
  obtain ⟨r', hread, hrest⟩ := Pieces.readExact_of_append .unexpectedEof
    (show r.content = [b] ++ rest from h) rfl
  exact ⟨r', Read.bind_ok.mpr ⟨_, _, hread, rfl⟩, hrest⟩

theorem readU16_of_append {n : UInt16} (h : r.content = toBeBytes n ++ rest) :
    ∃ r', readU16 r = .ok (n, r') ∧ r'.content = rest := by
  obtain ⟨r', hread, hrest⟩ := Pieces.readExact_of_append .unexpectedEof h rfl
  refine ⟨r', Read.bind_ok.mpr ⟨_, _, hread, ?_⟩, hrest⟩
  rw [fromBeBytes_toBeBytes]
  rfl

theorem readDestination_ok (h : readDestination r = .ok ((host, port), r')) :
    (Utf8.bytes host.toList).length ≤ MAX_HOST_LEN ∧
      r.content = frame host port ++ r'.content := by
  obtain ⟨version, r₁, hversion, h⟩ := Read.bind_ok.mp h
  split at h
  · cases h
  · next hsupported =>
    obtain ⟨len, r₂, hlen, h⟩ := Read.bind_ok.mp h
    split at h
    · cases h
    · next hmax =>
      obtain ⟨hostBuf, r₃, hbuf, h⟩ := Read.bind_ok.mp h
      cases hhost : Utf8.fromUtf8 hostBuf with
      | none =>
        rw [hhost] at h
        cases h
      | some host' =>
        rw [hhost] at h
        obtain ⟨port', r₄, hport, h⟩ := Read.bind_ok.mp h
        cases h
        obtain ⟨hcontent, hlength⟩ := Pieces.readExact_ok hbuf
        rw [← Utf8.fromUtf8_iff.mp hhost] at hcontent hlength
        rw [hlength, readU8_ok hversion, readU16_ok hlen, hcontent, readU16_ok hport, frame, hlength,
          UInt16.ofNat_toNat, Classical.not_not.mp hsupported]
        exact ⟨Nat.not_lt.mp hmax, by simp⟩

theorem readDestination_of_append (hlen : (Utf8.bytes host.toList).length ≤ MAX_HOST_LEN)
    (h : r.content = frame host port ++ rest) :
    ∃ r', readDestination r = .ok ((host, port), r') ∧ r'.content = rest := by
  simp only [frame, List.cons_append, List.append_assoc] at h
  obtain ⟨r₁, hversion, h⟩ := readU8_of_cons h
  obtain ⟨r₂, hhostLen, h⟩ := readU16_of_append h
  obtain ⟨r₃, hhost, h⟩ := Pieces.readExact_of_append .unexpectedEof h rfl
  obtain ⟨r₄, hport, h⟩ := readU16_of_append h
  refine ⟨r₄, Read.bind_ok.mpr ⟨_, _, hversion, ?_⟩, h⟩
  rw [if_neg (by simp)]
  refine Read.bind_ok.mpr ⟨_, _, hhostLen, ?_⟩
  rw [toNat_hostLen hlen]
  show (if MAX_HOST_LEN < _ then _ else _ : Read (String × UInt16)) r₂ = _
  rw [if_neg (Nat.not_lt.mpr hlen)]
  refine Read.bind_ok.mpr ⟨_, _, hhost, ?_⟩
  rw [Utf8.fromUtf8_iff.mpr rfl]
  exact Read.bind_ok.mpr ⟨_, _, hport, rfl⟩

theorem readDestination_iff :
    (∃ r', readDestination r = .ok ((host, port), r') ∧ n ≤ r.content.length ∧
        r'.content = r.content.drop n) ↔
      decodeDestination r.content = .ok (some (host, port, n)) := by
  simp only [decodeDestination_iff, encodeDestination_iff]
  constructor
  · rintro ⟨r', hread, hle, hdrop⟩
    obtain ⟨hlen, hcontent⟩ := readDestination_ok hread
    refine ⟨_, r'.content, ⟨hlen, rfl⟩, hcontent, ?_⟩
    have hlength := congrArg List.length hcontent
    rw [List.length_append, hdrop, List.length_drop] at hlength
    omega
  · rintro ⟨_, rest, ⟨hlen, rfl⟩, hcontent, rfl⟩
    obtain ⟨r', hread, hrest⟩ := readDestination_of_append hlen hcontent
    refine ⟨r', hread, ?_, ?_⟩
    · rw [hcontent, List.length_append]
      omega
    · rw [hrest, hcontent, List.drop_left]

end Stream

/-- **The frame codec.**  An encoding is decoded with the number of its bytes, whatever follows it,
    and no part of it is; what is decoded is encoded as the bytes it was decoded from; and a stream is
    read exactly if its bytes are decoded, with the same result. -/
theorem frame_codec :
    (∀ (host : String) (port : UInt16) (rest : List UInt8), Text.len host ≤ MAX_HOST_LEN →
      ∃ buf, encodeDestination host port = .ok buf ∧
        decodeDestination (buf ++ rest) = .ok (some (host, port, buf.length))) ∧
    (∀ (host : String) (port : UInt16) (buf pre : List UInt8),
      encodeDestination host port = .ok buf → pre <+: buf → pre ≠ buf →
        decodeDestination pre = .ok none) ∧
    (∀ (buf : List UInt8) (host : String) (port : UInt16) (n : Nat),
      decodeDestination buf = .ok (some (host, port, n)) →
        n ≤ buf.length ∧ encodeDestination host port = .ok (buf.take n)) ∧
    (∀ (r : ByteStream) (host : String) (port : UInt16) (n : Nat),
      (∃ r', readDestination r = .ok ((host, port), r') ∧ n ≤ r.content.length ∧
          r'.content = r.content.drop n) ↔
        decodeDestination r.content = .ok (some (host, port, n))) := by
  refine ⟨fun host port rest hlen => ?_, fun host port buf pre => decodeDestination_prefix,
    fun buf host port n hdecode => ?_, fun r host port n => readDestination_iff⟩
  · rw [Text.len, ← Utf8.length_bytes] at hlen
    exact ⟨_, encodeDestination_iff.mpr ⟨hlen, rfl⟩, decodeDestination_frame hlen⟩
  · obtain ⟨hdr, rest, hencode, rfl, rfl⟩ := decodeDestination_iff.mp hdecode
    rw [List.take_left, List.length_append]
    exact ⟨Nat.le_add_right _ _, hencode⟩

/-- A header with a byte after it, a part of the header, and the same bytes in two pieces. -/
theorem frame_codec_loopback :
    let buf : List UInt8 := [1, 0, 9, 49, 50, 55, 46, 48, 46, 48, 46, 49, 31, 145]
    let stream : ByteStream :=
      ⟨[⟨[1, 0], by decide⟩, ⟨[9, 49, 50, 55, 46, 48, 46, 48, 46, 49, 31, 145, 7], by decide⟩], none⟩
    encodeDestination "127.0.0.1" 8081 = .ok buf ∧
      decodeDestination (buf ++ [7]) = .ok (some ("127.0.0.1", 8081, 14)) ∧
      decodeDestination (buf.take 5) = .ok none ∧
      ∃ r', readDestination stream = .ok (("127.0.0.1", 8081), r') ∧ r'.content = [7] := by
  intro buf stream
  have hencode : encodeDestination "127.0.0.1" 8081 = .ok buf := by decide +kernel
  obtain ⟨hdecode, hprefix, -, hstream⟩ := frame_codec
  obtain ⟨buf', hbuf', hdecoded⟩ := hdecode "127.0.0.1" 8081 [7] (by decide +kernel)
  cases Except.ok.inj (hbuf'.symm.trans hencode)
  refine ⟨hencode, hdecoded, ?_, ?_⟩
  · exact hprefix _ _ _ _ hencode (List.take_prefix 5 buf) (by decide)
  · obtain ⟨r', hread, -, hrest⟩ := (hstream stream "127.0.0.1" 8081 14).mpr hdecoded
    exact ⟨r', hread, hrest⟩

end SingboxVpn.Framing
