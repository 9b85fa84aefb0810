import Scaffold.Catalog.Components
import Scaffold.Catalog.Endpoints
import Scaffold.Catalog.Services
import Scaffold.Failure

/-!
# The built-in catalog

Eleven templates.  A directory may hold files that take the place of some of them, each known by
its name.
-/

namespace Scaffold.Catalog

/-- A built-in template, and the name of the file that may replace it. -/
structure Entry where
  template : Template
  verb : Verb
  file : String

def entries : List Entry :=
  [⟨⟨"endpoint.post", .endpoint, postEndpoint⟩, .post, "endpoint_post.yaml.tmpl"⟩,
    ⟨⟨"endpoint.get", .endpoint, getEndpoint⟩, .get, "endpoint_get.yaml.tmpl"⟩,
    ⟨⟨"endpoint.put", .endpoint, putEndpoint⟩, .put, "endpoint_put.yaml.tmpl"⟩,
    ⟨⟨"endpoint.delete", .endpoint, deleteEndpoint⟩, .delete, "endpoint_delete.yaml.tmpl"⟩,
    ⟨⟨"service.post", .service, postService⟩, .post, "service_post.ts.tmpl"⟩,
    ⟨⟨"service.get", .service, getService⟩, .get, "service_get.ts.tmpl"⟩,
    ⟨⟨"service.put", .service, putService⟩, .put, "service_put.ts.tmpl"⟩,
    ⟨⟨"service.delete", .service, deleteService⟩, .delete, "service_delete.ts.tmpl"⟩,
    ⟨⟨"component.list", .listing, listComponent⟩, .get, "component_list.ts.tmpl"⟩,
    ⟨⟨"component.create", .editor, createComponent⟩, .post, "component_create.ts.tmpl"⟩,
    ⟨⟨"component.edit", .editor, editComponent⟩, .put, "component_edit.ts.tmpl"⟩]

/-- The entry with the source of its file, if there is one. -/
def Entry.override (read : String → Option String) (entry : Entry) : Entry :=
  match read entry.file with
  | some source => { entry with template := { entry.template with source } }
  | none => entry

def ofEntries (entries : List Entry) : Catalog :=
  entries.foldl (fun catalog entry => catalog.insert entry.verb entry.template) empty

def builtin : Catalog :=
  ofEntries entries

/-- The built-in catalog with the files of a directory in place of the entries they are named
for. -/
def overridden (read : String → Option String) : Catalog :=
  ofEntries (entries.map (Entry.override read))

/-- What is said of a directory of templates that is not there. -/
def missingDirectory (directory : String) : Failure :=
  .configuration ("template directory " ++ directory ++ " does not exist")

end Scaffold.Catalog
