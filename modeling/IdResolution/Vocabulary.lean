/-!
# Vocabulary

The property names that resolution knows: the two that place a node on the map,
the one that names a canonical id, and the external ids inspected by default.
-/

namespace IdResolution.Vocabulary

/-- The property that holds a node's latitude. -/
def latitude : String := "latitude"

/-- The property that holds a node's longitude. -/
def longitude : String := "longitude"

/-- The property under which the service names a canonical id. -/
def dcid : String := "dcid"

/-- The external id properties inspected by default, in order of priority. -/
def externalIds : List String :=
  ["isoCode", "geoId", "nutsCode", "wikidataId", "geoNamesId", "istatId",
   "austrianMunicipalityKey", "indianCensusAreaCode2011", "indianCensusAreaCode2001",
   "lgdCode", "udiseCode"]

end IdResolution.Vocabulary
