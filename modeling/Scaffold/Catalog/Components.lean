import Scaffold.Catalog.Basic

/-!
# Components

The parts of a user interface that show and edit rows.
-/

namespace Scaffold.Catalog

/-- A table of rows, page by page. -/
def listComponent : String := sourceOfLines [
  "// [[class_name]] list component, generated by [[generator]]",
  "import \x7b Component, OnInit \x7d from '@angular/core';",
  "import \x7b [[class_name]], [[class_name]]ReadService \x7d from './[[file_stem]].get.service';",
  "",
  "@Component(\x7b",
  "  selector: 'app-[[file_stem]]-list',",
  "  template: `",
  "    <table>",
  "      <thead>",
  "        <tr>",
  "[[[columns]]]",
  "          <th>[[column|label]]</th>",
  "[[[/columns]]]",
  "[[?join]]",
  "[[[joins]]]",
  "[[[join_label]]]",
  "          <th>[[join_column|label]] ([[join_label_column|label]])</th>",
  "[[[/join_label]]]",
  "[[[/joins]]]",
  "[[/?join]]",
  "        </tr>",
  "      </thead>",
  "      <tbody>",
  "        <tr *ngFor=\"let row of rows\">",
  "[[[columns]]]",
  "          <td>\x7b\x7b row.[[column]] \x7d\x7d</td>",
  "[[[/columns]]]",
  "[[?join]]",
  "[[[joins]]]",
  "[[[join_label]]]",
  "          <td>\x7b\x7b row.[[join_label_alias]] \x7d\x7d</td>",
  "[[[/join_label]]]",
  "[[[/joins]]]",
  "[[/?join]]",
  "        </tr>",
  "      </tbody>",
  "    </table>",
  "    <button (click)=\"previous()\" [disabled]=\"offset === 0\">Previous</button>",
  "    <button (click)=\"next()\" [disabled]=\"rows.length < limit\">Next</button>",
  "  `,",
  "\x7d)",
  "export class [[class_name]]ListComponent implements OnInit \x7b",
  "  rows: [[class_name]][] = [];",
  "  displayedColumns: string[] = [ [[[columns|, ]]]'[[column]]'[[[/columns]]] ];",
  "  limit = 25;",
  "  offset = 0;",
  "",
  "  constructor(private service: [[class_name]]ReadService) \x7b\x7d",
  "",
  "  ngOnInit(): void \x7b",
  "    this.load();",
  "  \x7d",
  "",
  "  previous(): void \x7b",
  "    this.offset = Math.max(0, this.offset - this.limit);",
  "    this.load();",
  "  \x7d",
  "",
  "  next(): void \x7b",
  "    this.offset += this.limit;",
  "    this.load();",
  "  \x7d",
  "",
  "  private load(): void \x7b",
  "    this.service.read(\x7b\x7d, this.limit, this.offset).subscribe((rows) => (this.rows = rows));",
  "  \x7d",
  "\x7d"]

/-- A form for a new row. -/
def createComponent : String := sourceOfLines [
  "// [[class_name]] create dialog, generated by [[generator]]",
  "import \x7b Component \x7d from '@angular/core';",
  "import \x7b [[class_name]]CreateInput, [[class_name]]CreateService \x7d from './[[file_stem]].post.service';",
  "",
  "export interface FieldDefinition \x7b",
  "  name: string;",
  "  label: string;",
  "  control: string;",
  "  required: boolean;",
  "  lookup?: \x7b endpoint: string; value: string; label: string; selector: 'long' | 'short' \x7d;",
  "\x7d",
  "",
  "@Component(\x7b",
  "  selector: 'app-[[file_stem]]-create',",
  "  template: `",
  "    <form (ngSubmit)=\"save()\">",
  "      <app-field *ngFor=\"let field of fields\" [field]=\"field\" [model]=\"model\"></app-field>",
  "      <button type=\"submit\">Create</button>",
  "    </form>",
  "  `,",
  "\x7d)",
  "export class [[class_name]]CreateComponent \x7b",
  "  model: Partial<[[class_name]]CreateInput> = \x7b\x7d;",
  "  fields: FieldDefinition[] = [",
  "[[[columns]]]",
  "    \x7b",
  "      name: '[[column]]',",
  "      label: '[[column|label]]',",
  "      control: '[[column_control]]',",
  "      required: [[column_required]],",
  "[[[column_lookup]]]",
  "      lookup: \x7b endpoint: 'modules/[[module_url]]/[[join_table|kebab]]', value: '[[join_referenced_column]]', label: '[[join_display_column]]', selector: '[[join_kind]]' \x7d,",
  "[[[/column_lookup]]]",
  "    \x7d,",
  "[[[/columns]]]",
  "  ];",
  "",
  "  constructor(private service: [[class_name]]CreateService) \x7b\x7d",
  "",
  "  save(): void \x7b",
  "    this.service.create(this.model as [[class_name]]CreateInput).subscribe();",
  "  \x7d",
  "\x7d"]

/-- A form for an existing row. -/
def editComponent : String := sourceOfLines [
  "// [[class_name]] edit dialog, generated by [[generator]]",
  "import \x7b Component, Input \x7d from '@angular/core';",
  "import \x7b [[class_name]]UpdateInput, [[class_name]]UpdateService \x7d from './[[file_stem]].put.service';",
  "",
  "export interface FieldDefinition \x7b",
  "  name: string;",
  "  label: string;",
  "  control: string;",
  "  required: boolean;",
  "  lookup?: \x7b endpoint: string; value: string; label: string; selector: 'long' | 'short' \x7d;",
  "\x7d",
  "",
  "@Component(\x7b",
  "  selector: 'app-[[file_stem]]-edit',",
  "  template: `",
  "    <form (ngSubmit)=\"save()\">",
  "      <app-field *ngFor=\"let field of fields\" [field]=\"field\" [model]=\"model\"></app-field>",
  "      <button type=\"submit\">Save</button>",
  "    </form>",
  "  `,",
  "\x7d)",
  "export class [[class_name]]EditComponent \x7b",
  "  @Input() model: Partial<[[class_name]]UpdateInput> = \x7b\x7d;",
  "  readonly keys: string[] = [ [[[primary_keys|, ]]]'[[column]]'[[[/primary_keys]]] ];",
  "  fields: FieldDefinition[] = [",
  "[[[columns]]]",
  "    \x7b",
  "      name: '[[column]]',",
  "      label: '[[column|label]]',",
  "      control: '[[column_control]]',",
  "      required: [[column_required]],",
  "[[[column_lookup]]]",
  "      lookup: \x7b endpoint: 'modules/[[module_url]]/[[join_table|kebab]]', value: '[[join_referenced_column]]', label: '[[join_display_column]]', selector: '[[join_kind]]' \x7d,",
  "[[[/column_lookup]]]",
  "    \x7d,",
  "[[[/columns]]]",
  "  ];",
  "",
  "  constructor(private service: [[class_name]]UpdateService) \x7b\x7d",
  "",
  "  save(): void \x7b",
  "    this.service.update(this.model as [[class_name]]UpdateInput).subscribe();",
  "  \x7d",
  "\x7d"]

end Scaffold.Catalog
