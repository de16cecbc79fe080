import TxnCoord.Proofs.Json.Normal
import TxnCoord.Proofs.Recovery.Encoding
/-!
# Settings read back from their own text

Settings written as JSON text read back as themselves whenever they could have been read at
all: every field holds what its type allows (`Config.Valid`), the root address passes the
check of the settings, and it does not end in a slash, which reading drops.

Settings read from any text are such settings. Decoding gives the record in normal form
(`Shape.decodeText_normal`), so the keep-alive interval is null or a number of 64 bits; every
identifier read is below 2^128; reading drops the slashes that end the root address and checks
what is left. So writing the settings read and reading them again gives them back unchanged:
dropping the slashes a second time drops nothing.

Main statement:

    (c.Valid → c.validate = .ok () → c.rootUri.toList.getLast? ≠ some '/' →
      Config.ofJsonText c.toJsonText = .ok c) ∧
    (Config.ofJsonText text = .ok c → Config.ofJsonText c.toJsonText = .ok c)
                                                                   (settings_text_round_trip)
-/

namespace TxnCoord

open Json Json.Reader

namespace Config

/-! ## Dropping the slashes that end the root address -/

/-- A text that does not end in a slash loses nothing. -/
theorem trimSlashes_of_getLast {s : String} (h : s.toList.getLast? ≠ some '/') :
    trimSlashes s = s := by
  have hkeep : s.toList.reverse.dropWhile (· = '/') = s.toList.reverse := by
    rw [← List.head?_reverse] at h
    cases hr : s.toList.reverse with
    | nil => rfl
    | cons c rest =>
      rw [hr, List.head?_cons] at h
      exact List.dropWhile_cons_of_neg (by simpa using h)
  rw [trimSlashes, hkeep, List.reverse_reverse, String.ofList_toList]

/-- What is left after dropping the slashes that end a text does not end in one. -/
theorem getLast_trimSlashes (s : String) : (trimSlashes s).toList.getLast? ≠ some '/' := by
  unfold trimSlashes
  rw [String.toList_ofList, List.getLast?_reverse]
  intro h
  have hnot := List.head?_dropWhile_not (fun c => decide (c = '/')) s.toList.reverse
  rw [h] at hnot
  exact absurd hnot (by decide)

/-! ## Writing and reading back -/

/-- The record shapes of settings and of credentials name each field once. -/
theorem shape_distinct : shape.Distinct := by
  have hcred : credentialsShape.Distinct := by
    refine .record (by decide) ?_
    simp only [List.mem_cons, List.not_mem_nil, or_false]
    rintro f (rfl | rfl) <;> exact .text
  refine .record (by decide) ?_
  simp only [List.mem_cons, List.not_mem_nil, or_false]
  rintro f (rfl | rfl | rfl | rfl | rfl | rfl | rfl)
  · exact .text
  · exact .opt hcred
  · exact .opt .text
  · exact .text
  · exact .flag
  · exact .opt .nat64
  · exact .uuid

theorem decodeText_toJsonText {c : Config} (hc : c.Valid) :
    shape.decodeText c.toJsonText = .ok c.toJson := by
  -- the text is long enough for the fuel the record needs
  have hkey : (utf8 (quote "root_uri")).length = 10 := by decide
  have hjson : c.toJson = .obj (("root_uri", .str c.rootUri) :: c.members.tail.map Member.written) := rfl
  have hlen := length_quote_le_pretty 0 "root_uri" (.str c.rootUri) (c.members.tail.map Member.written)
  rw [hkey, ← hjson] at hlen
  exact decodeText_pretty (Config.readsBack hc) (by omega) (by unfold fuelFor; omega)

/-! ## Settings read from any text -/

/-- An identifier read from a text, or the default one when the text holds none, is below
2^128. -/
theorem parse_getD_lt (t : String) : ((Uuid.parse t).toOption.getD default).value < Nat.pow 2 128 := by
  cases hp : Uuid.parse t with
  | ok u => exact Uuid.parse_lt hp
  | error e => simp only [Except.toOption, Option.getD_none]; decide

/-- The keep-alive member of a decoded record of settings is null or a number of 64 bits. -/
theorem keepAlive_normal {j : Json} (hj : shape.Normal j) :
    ∃ v, j.get? "keep_alive_interval_ms" = some v ∧ (v = .null ∨ ∃ n ≤ u64Max, v = .nat n) := by
  unfold shape at hj
  cases hj with
  | record hvals =>
    obtain ⟨v, hv, hnorm⟩ := hvals.lookup (by decide) (k := "keep_alive_interval_ms")
      (s := .opt .nat64) (a := .fill .null) (by simp)
    refine ⟨v, hv, ?_⟩
    rcases hnorm with hnorm | hnorm
    · cases hnorm with
      | null => exact .inl rfl
      | some h =>
        cases h with
        | nat64 hn => exact .inr ⟨_, hn, rfl⟩
    · cases hnorm
      exact .inl rfl

/-- Settings from a decoded record hold what their types allow. -/
theorem valid_ofDecoded {j : Json} (hj : shape.Normal j) : (ofDecoded j).Valid := by
  refine ⟨fun n hn => ?_, ?_⟩
  · obtain ⟨v, hv, hnull | ⟨m, hm, rfl⟩⟩ := keepAlive_normal hj
    · simp [ofDecoded, hv, hnull, Json.int?] at hn
    · simp only [ofDecoded, hv, Option.bind_some, Json.nat, Json.int?, Option.map_some,
        Int.toNat_natCast, Option.mem_def, Option.some.injEq] at hn
      exact hn ▸ hm
  · simp only [ofDecoded]
    split
    · exact parse_getD_lt _
    · decide

/-- Settings that hold what their types allow and pass their check read back from their text
when the root address does not end in a slash. -/
theorem ofJsonText_toJsonText {c : Config} (hc : c.Valid) (hv : c.validate = .ok ())
    (hr : c.rootUri.toList.getLast? ≠ some '/') : ofJsonText c.toJsonText = .ok c := by
  have htrim : { c with rootUri := trimSlashes c.rootUri } = c := by
    rw [trimSlashes_of_getLast hr]
  simp only [ofJsonText, decodeText_toJsonText hc, ofDecoded_toJson hc, htrim, hv, ok_bind,
    pure_eq_ok]

/-- Settings read from a text read back from their own text. -/
theorem ofJsonText_reload {text : String} {c : Config} (h : ofJsonText text = .ok c) :
    ofJsonText c.toJsonText = .ok c := by
  unfold ofJsonText at h
  cases hj : shape.decodeText text with
  | error e =>
    rw [hj] at h
    cases h
  | ok j =>
    simp only [hj, pure_eq_ok, ok_bind] at h
    obtain ⟨u, hval, hc⟩ := bind_eq_ok h
    cases hc
    -- dropping the slashes keeps the fields that validity is about
    have hvalid := valid_ofDecoded (Shape.decodeText_normal shape_distinct hj)
    exact ofJsonText_toJsonText ⟨hvalid.keepAlive, hvalid.resourceManager⟩ hval (getLast_trimSlashes _)

end Config

/-- Writing settings as JSON text and reading the text back gives the same settings, when they
hold what their types allow, pass their check and have a root address that does not end in a
slash; and every settings read from a text are such settings, so they read back from their own
text unchanged. -/
theorem settings_text_round_trip :
    (∀ c : Config, c.Valid → c.validate = .ok () → c.rootUri.toList.getLast? ≠ some '/' →
      Config.ofJsonText c.toJsonText = .ok c) ∧
    (∀ (text : String) (c : Config), Config.ofJsonText text = .ok c →
      Config.ofJsonText c.toJsonText = .ok c) :=
  ⟨fun _ hc hv hr => Config.ofJsonText_toJsonText hc hv hr, fun _ _ h => Config.ofJsonText_reload h⟩

/-- Settings for a local server, with every other field at its default, read back from their
text. -/
theorem local_settings_read_back :
    Config.ofJsonText ({ rootUri := "http://localhost:7474" } : Config).toJsonText =
      .ok { rootUri := "http://localhost:7474" } :=
  settings_text_round_trip.1 _ (by decide)
    (by simp +decide only [Config.validate, Config.transportKind, TransportKind.ofUri,
      TransportKind.scheme?, String.splitOn, String.splitOnAux.eq_1, ↓reduceIte])
    (by decide)

end TxnCoord
