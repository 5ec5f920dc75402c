import SharedVariables.Proofs.Client.Exchange
import SharedVariables.Proofs.Name.Text
import SharedVariables.Proofs.Server.Sendable
import SharedVariables.Proofs.Wire.Form

/-!
# Reading rows

A row is read from its record, and from no beginning of it (`Row.reads`), whatever its fields hold: a
code that is no state, flags without a meaning, zeros and points that are no characters in its name. So a
client reads the row that its server has, over any connection that is at rest (`Client.readRecord_atRest`).
-/

namespace SharedVariables

open Wire

/-! ## Records -/

theorem Partner.reads (p : Partner) : Reader.Reads Partner.read p.encode p := by
  have flags := (Reader.Reads.unsigned (k := 2) p.flags.toWord.toNat_lt).map fun flags =>
    Partner.mk p.id p.pid p.port (.ofWord (.ofNat flags))
  rw [UInt16.ofNat_toNat, PartnerFlags.ofWord_toWord] at flags
  rw [Partner.encode, List.append_assoc, List.append_assoc]
  exact (Item.reads_id p.id).bind ((Item.reads_word p.pid).bind ((Item.reads_port p.port).bind flags))

theorem Row.reads (row : Row) : Reader.Reads Row.read row.encode row := by
  have name := (Item.reads_name row.name).map fun name =>
    Row.mk row.key row.offering row.accepting row.stateCode name
  simp only [Row.encode, List.append_assoc]
  exact (Item.reads_key row.key).bind
    (row.offering.reads.bind (row.accepting.reads.bind ((Item.reads_byte row.stateCode).bind name)))

/-- The record of a row says more than the one of no row. -/
theorem Row.encode_ne_nil (row : Row) : row.encode ≠ [] := by
  intro h
  have := congrArg List.length h
  simp only [Row.encode, List.length_append, length_bigEndian, List.length_nil] at this
  omega

theorem decodeRecord_of_ne_nil {bs : Bytes} (h : bs ≠ []) :
    decodeRecord bs = (Row.read.result bs).map some := by
  rw [decodeRecord, if_neg (by rwa [List.isEmpty_iff])]

/-- A record is read as what it was made of. -/
theorem decodeRecord_encodeRecord (row? : Option Row) :
    decodeRecord (encodeRecord row?) = .ok row? := by
  cases row? with
  | none => rfl
  | some row =>
    have whole := row.reads.result_eq []
    rw [List.append_nil] at whole
    rw [encodeRecord, decodeRecord_of_ne_nil row.encode_ne_nil, whole]
    rfl

theorem decodeRecord_prefix {row : Row} {p : Bytes} (hp : p <+: row.encode) (nonempty : p ≠ [])
    (hne : p ≠ row.encode) :
    ∃ needed available, decodeRecord p = .error (.truncated needed available) := by
  obtain ⟨needed, available, left, cut⟩ := row.reads.cut p hp hne
  refine ⟨needed, available, ?_⟩
  rw [decodeRecord_of_ne_nil nonempty, Reader.result, cut]
  rfl

/-! ## Asking for a row -/

namespace Client

/-- A record that comes from any peer is read. -/
theorem readRecord_of_request {σ : Type} [Peer σ] {c c' : Client σ} {key : Key} {row? : Option Row}
    (h : c.request (.readSvarRecord key) = (.ok (.svarRecordIs (encodeRecord row?)), c')) :
    c.readRecord key = (row?, c') := by
  rw [readRecord, ask, h]
  dsimp only
  rw [decodeRecord_encodeRecord]
  rfl

/-- Over a connection at rest a client reads the row of the server, which it leaves as it was but for
values of variables that are gone. -/
theorem readRecord_atRest {c : Client Link} (h : c.AtRest) (server : Server) (key : Key) :
    ∃ c', (c.actOn server fun c => c.readRecord key) =
        ⟨server.registry.getVar key, c', server.prune, []⟩ ∧
      (c.facing server).Served (c.peer.service.session.idle server
        (some (.svarRecordIs (encodeRecord (server.registry.getVar key))))) c' := by
  have fits : (Signal.readSvarRecord key).Fits := trivial
  obtain ⟨c', answered, served⟩ :=
    request_atRest (h.facing server) fits rfl rfl (svarRecordIs_fits _) rfl
  refine ⟨c', ?_, served⟩
  rw [actOn_eq, readRecord_of_request answered]
  dsimp only
  rw [served.server, served.notices]
  rfl

/-- Rows survive the wire. Whatever the fields of a row hold, the row is read from its record, which is
not that of no row, and nothing is read from a beginning of it. Any word of flags and any 64 code points
are those of a row. So a client reads the very row whose record comes back from a peer, or that there is
none; and from a server, over a connection that works, it reads the row that the server has, whatever else
is on the server, and the connection goes on working. -/
theorem rows_survive_the_wire :
    (∀ row : Row, decodeRecord (encodeRecord (some row)) = .ok (some row) ∧
        encodeRecord (some row) ≠ encodeRecord none ∧
        ∀ p, p <+: encodeRecord (some row) → p ≠ [] → p ≠ encodeRecord (some row) →
          ∃ needed available, decodeRecord p = .error (.truncated needed available)) ∧
      decodeRecord (encodeRecord none) = .ok none ∧
      (∀ word, (PartnerFlags.ofWord word).toWord = word) ∧
      (∀ points, points.length = nameCapacity → (Name.ofPoints points).buffer = points) ∧
      (∀ (σ : Type) [Peer σ] (c c' : Client σ) (key : Key) (row? : Option Row),
        c.request (.readSvarRecord key) = (.ok (.svarRecordIs (encodeRecord row?)), c') →
          c.readRecord key = (row?, c')) ∧
      ∀ c : Client Link, c.AtRest → ∀ (server : Server) (key : Key),
        ∃ c', (c.actOn server fun c => c.readRecord key) =
          ⟨server.registry.getVar key, c', server.prune, []⟩ ∧ c'.AtRest := by
  refine ⟨fun row => ⟨decodeRecord_encodeRecord (some row), row.encode_ne_nil,
    fun p => decodeRecord_prefix⟩, decodeRecord_encodeRecord none, PartnerFlags.toWord_ofWord,
    fun points => Name.buffer_ofPoints, fun σ _ c c' key row? => readRecord_of_request,
    fun c rest server key => ?_⟩
  obtain ⟨c', read, served⟩ := readRecord_atRest rest server key
  exact ⟨c', read, served.atRest⟩

/-- A row with flags that mean nothing, a code that is no state, and a name with a zero inside and a point
that is no character. -/
theorem rows_survive_the_wire_of_stray_bits :
    let row : Row :=
      { key := ⟨0x703E90001⟩
        offering := ⟨.single 1001, 10, 5001, .ofWord 0xFFC5⟩
        accepting := ⟨.single 1002, 0, 0, .ofWord 0x8000⟩
        stateCode := 0xFE
        name := .ofPoints [0x41, 0, 0xD800] }
    let server : Server := { Server.empty with registry := { Registry.empty with
      rows := put Registry.empty.rows ⟨3, by decide⟩ row } }
    let config : ClientConfig := ⟨.unixPath "/run/svars", .ofSeconds 5, "apl"⟩
    let c := connect config (.ofProcess (.single 1001) 10 5001) (.ofServer server) true
    let record := encodeRecord (some row)
    record.length = 63 ∧ c.AtRest ∧
      (∃ needed available, decodeRecord (record.take 62) = .error (.truncated needed available)) ∧
      (Name.ofPoints (0x41 :: List.replicate 63 0)).buffer = 0x41 :: List.replicate 63 0 ∧
      (∃ c', c.request (.readSvarRecord row.key) = (.ok (.svarRecordIs record), c') ∧
        c.readRecord row.key = (some row, c')) ∧
      (c.actOn server fun c => c.readRecord row.key).value = some row := by
  intro row server config c record
  have length : record.length = 63 := by decide
  have rest : c.AtRest := ⟨rfl, rfl, rfl, rfl, rfl, rfl⟩
  have held : server.registry.getVar row.key = some row := by decide +kernel
  obtain ⟨records, -, -, buffers, peers, connections⟩ := rows_survive_the_wire
  obtain ⟨-, -, cut⟩ := records row
  have fits : (Signal.readSvarRecord row.key).Fits := trivial
  obtain ⟨c', asked, -⟩ := request_atRest rest fits rfl rfl (svarRecordIs_fits _) rfl
  have asked : c.request (.readSvarRecord row.key) =
      (.ok (.svarRecordIs (encodeRecord (server.registry.getVar row.key))), c') := asked
  rw [held] at asked
  obtain ⟨_, read, -⟩ := connections c rest server row.key
  refine ⟨length, rest, cut _ (List.take_prefix 62 record) (by decide) (by decide), buffers _ rfl,
    ⟨c', asked, peers Link c c' row.key (some row) asked⟩, ?_⟩
  rw [read]
  exact held

end Client

end SharedVariables
