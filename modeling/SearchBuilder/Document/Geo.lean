import SearchBuilder.Document.Accessor

/-!
# Geographic methods

A geo point is given as an object, a text, a geohash or a pair `[lat, lon]`; pairs are stored with
the longitude first. What cannot be read as a point leaves the point as it was. Other nodes take a
geo point, or a latitude and a longitude, for the places that they are about.
-/

namespace SearchBuilder

/-- A pair `[lat, lon]` in stored order. -/
def lonLat? (n : Node) (v : Argument) : Option Json :=
  match v.items? with
  | some [lat, lon] => some (.arr [lon.toJson n, lat.toJson n])
  | _ => none

/-- Stores another form of a geo point. -/
def Node.setPoint (n : Node) (point : Json) : Outcome Node :=
  .shifted { n with fragment := point } [.taken []]

/-- A method about geographic places. -/
inductive GeoMethod where
  /-- The point as an object with `lat` and `lon`, or with `geohash`. -/
  | pointProperties
  /-- The point as a text `lat,lon`. -/
  | pointText
  /-- The point as a geohash of a given length. -/
  | pointHash
  /-- The point as a pair. -/
  | pointPair
  /-- The point from which a distance is measured, kept under the field's name. -/
  | distancePoint
  /-- A corner of a bounding box. -/
  | corner (key : String)
  /-- The origin of a decay: a geo point or a plain value. -/
  | origin
  deriving DecidableEq, Repr

namespace GeoMethod

/-- The stored form of a geo point, or of a latitude and longitude that `form` puts together. -/
def pointValue (n : Node) (point lon : Argument) (form : Json → Json → Json) :
    Except Misuse Json :=
  if point.satisfies n (.category .geoPoint) then .ok (point.snapshot n)
  else if point.isNode n || lon.isNull then .error .notPoint
  else .ok (form (point.toJson n) (lon.toJson n))

/-- The point that an object describes. -/
def describedPoint? (v : Argument) : Option Json :=
  match v with
  | .plain (.obj members) =>
    match Entries.get? members "lat", Entries.get? members "lon",
        Entries.get? members "geohash" with
    | some lat, some lon, _ => some (.obj [("lat", lat), ("lon", lon)])
    | _, _, some hash => some (.obj [("geohash", hash)])
    | _, _, _ => none
  | _ => none

/-- Whether a number equals a length. -/
def equalsLength (precision : Argument) (length : Nat) : Bool :=
  match precision with
  | .plain (.int i) => i = length
  | .plain (.float x) => x.equalsInt length
  | .plain (.bool b) => length = b.toNat
  | _ => false

/-- The usual length of a geohash. -/
def geohashLength : Argument := .plain (.int 12)

/-- Runs a method about a place. -/
def run (m : GeoMethod) (n : Node) (args : Arguments) : Outcome Node :=
  match m with
  | pointProperties =>
    let v := args.first
    if v.isNull then n.readPart []
    else
      match describedPoint? v with
      | some point => n.setPoint point
      | none => .noticed n (.ignoredPoint (v.display n))
  | pointText =>
    let v := args.first
    if v.isNull then n.readPart []
    else
      match v.text? with
      | some text =>
        if text.toList.contains ',' then n.setPoint (.str text) else .chained n
      | none => .chained n
  | pointHash =>
    let v := args.first ["precision"]
    let precision := (args.get? 1 "precision").getD geohashLength
    if v.isNull then n.readPart []
    else
      match v.text? with
      | some hash =>
        if equalsLength precision hash.length then n.setPoint (.str hash)
        else .chained n
      | none => .chained n
  | pointPair =>
    let v := args.first
    if v.isNull then n.readPart []
    else
      match lonLat? n v with
      | some pair => n.setPoint pair
      | none => .chained n
  | distancePoint =>
    let v := args.first ["lon"]
    if v.isNull then n.readOption .body n.inner
    else
      match pointValue n v (args.get 1 "lon") fun lat lon => .obj [("lat", lat), ("lon", lon)] with
      | .ok point => n.writeOption .body n.inner point
      | .error cause => .refused n cause
  | corner key =>
    let v := args.first ["lon"]
    if v.isNull then n.readOption .inner key
    else
      match pointValue n v (args.get 1 "lon") fun lat lon => .arr [lon, lat] with
      | .ok point => n.writeOption .inner key point
      | .error cause => .refused n cause
  | origin =>
    let v := args.first
    if v.isNull then n.readOption .inner "origin"
    else if v.isNode n && !v.satisfies n (.category .geoPoint) then .refused n .badOrigin
    else n.writeOption .inner "origin" (v.snapshot n)

end GeoMethod

end SearchBuilder
