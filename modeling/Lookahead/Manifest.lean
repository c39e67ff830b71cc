import Lookahead.Manifest.Description

namespace Lookahead

structure Manifest where
  name : String
  author : String
  authorEmail : String
  summary : String
  /-- The version of a package whose history is not at hand. -/
  fallbackVersion : String
  description : String
  descriptionFormat : String
  license : String
  sourceRoot : String
  packages : List String
  requirements : List String
  testRequirements : List String
  platforms : String
  classifiers : List String
  buildRequirements : List String
  includesData : Bool
deriving DecidableEq, Repr

namespace Manifest

inductive Value where
  | text (s : String)
  | flag (b : Bool)
  | texts (ss : List String)
  | table (entries : List (String × String))
  | groups (entries : List (String × List String))
deriving DecidableEq, Repr

/-- The declared fields under the names they are published by. -/
def fields (m : Manifest) : List (String × Value) := [
  ("name", .text m.name),
  ("author", .text m.author),
  ("author_email", .text m.authorEmail),
  ("description", .text m.summary),
  ("use_scm_version", .table [("fallback_version", m.fallbackVersion)]),
  ("long_description", .text m.description),
  ("long_description_content_type", .text m.descriptionFormat),
  ("license", .text m.license),
  ("package_dir", .table [("", m.sourceRoot)]),
  ("packages", .texts m.packages),
  ("install_requires", .texts m.requirements),
  ("extras_require", .groups [("tests", m.testRequirements)]),
  ("platforms", .text m.platforms),
  ("classifiers", .texts m.classifiers),
  ("setup_requires", .texts m.buildRequirements),
  ("include_package_data", .flag m.includesData)]

def select (m : Manifest) (names : List String) : List (String × Value) :=
  m.fields.filter fun f => names.contains f.1

/-- The version of a package that is not installed. -/
def version : String := "0.0.0"

def exports : List String :=
  ["END_OF_STREAM", "Token", "TokenStream", "TokenSyntaxError", "names_from_enum"]

def ofDescription (description : String) : Manifest where
  name := "TokenStream"
  author := "Equinor"
  authorEmail := "fg_sib-scout@equinor.com"
  summary := "Token and token stream primitives for recursive descent parsers."
  fallbackVersion := "0.0.0"
  description := description
  descriptionFormat := "text/markdown"
  license := "LGPL-3.0"
  sourceRoot := "src"
  packages := ["_tokenstream", "tokenstream"]
  requirements := []
  testRequirements := ["pytest", "hypothesis"]
  platforms := "any"
  classifiers := [
    "Development Status :: 1 - Planning",
    "License :: OSI Approved :: GNU Lesser General Public License v3 or later (LGPLv3+)",
    "Programming Language :: Python",
    "Programming Language :: Python :: 3.8",
    "Programming Language :: Python :: 3.9",
    "Programming Language :: Python :: 3.10",
    "Programming Language :: Python :: 3.11",
    "Programming Language :: Python :: 3.12"]
  buildRequirements := ["setuptools_scm"]
  includesData := true

def ofReadme (readme : Option (List UInt8)) : Except Description.Fault Manifest :=
  (Description.read readme).map ofDescription

end Manifest

end Lookahead
