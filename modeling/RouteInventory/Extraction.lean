import RouteInventory.Extraction.Comments
import RouteInventory.Extraction.Parameters
import RouteInventory.Extraction.Routes
import RouteInventory.Extraction.Secrets

/-!
Everything that is recovered from one file's text. The patterns run independently of each other.
-/

namespace RouteInventory

open Extraction

/-- What one file yields. -/
structure FileExtraction where
  routes : List Route
  basePaths : List String
  otherUrls : List UrlMention
  headers : OrderedSet String
  bodyParams : OrderedSet String
  queryParams : OrderedSet String
  envVars : List String
  comments : List String
  secrets : OrderedSet String

/-- Runs every pattern over a file's text. -/
def extract (rules : SecretRules) (file : String) (content : String) : FileExtraction :=
  let chars := content.toList
  let text := chars.toArray
  let declared := routesIn file text
  { routes := declared.routes
    basePaths := declared.basePaths
    otherUrls := urlsIn file text
    headers := headersIn text
    bodyParams := parametersIn .body text
    queryParams := parametersIn .query text
    envVars := envVarsIn text
    comments := commentsIn text
    secrets := rules.find chars }

end RouteInventory
