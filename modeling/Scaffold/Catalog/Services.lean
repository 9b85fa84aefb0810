import Scaffold.Catalog.Basic

/-!
# Service methods

The client code that calls an endpoint.
-/

namespace Scaffold.Catalog

/-- Creates a row and hands on the new key when it is returned. -/
def postService : String := sourceOfLines [
  "// [[class_name]] create service, generated by [[generator]]",
  "import \x7b HttpClient \x7d from '@angular/common/http';",
  "import \x7b Injectable \x7d from '@angular/core';",
  "import \x7b Observable \x7d from 'rxjs';",
  "",
  "export interface [[class_name]]CreateInput \x7b",
  "[[[columns]]]",
  "  [[column]][[column_optional]]: [[column_ts_type]];",
  "[[[/columns]]]",
  "\x7d",
  "",
  "[[?return_id]]",
  "export interface [[class_name]]CreateResult \x7b",
  "[[[primary_keys]]]",
  "  [[column]]: [[column_ts_type]];",
  "[[[/primary_keys]]]",
  "\x7d",
  "[[/?return_id]]",
  "[[?!return_id]]",
  "export interface [[class_name]]CreateResult \x7b",
  "  affected: number;",
  "\x7d",
  "[[/?!return_id]]",
  "",
  "@Injectable(\x7b providedIn: 'root' \x7d)",
  "export class [[class_name]]CreateService \x7b",
  "  constructor(private http: HttpClient) \x7b\x7d",
  "",
  "  create(input: [[class_name]]CreateInput): Observable<[[class_name]]CreateResult> \x7b",
  "    return this.http.post<[[class_name]]CreateResult>('[[endpoint_url]]', input);",
  "  \x7d",
  "\x7d"]

/-- Reads rows by equality filters. -/
def getService : String := sourceOfLines [
  "// [[class_name]] read service, generated by [[generator]]",
  "import \x7b HttpClient, HttpParams \x7d from '@angular/common/http';",
  "import \x7b Injectable \x7d from '@angular/core';",
  "import \x7b Observable \x7d from 'rxjs';",
  "",
  "export interface [[class_name]] \x7b",
  "[[[columns]]]",
  "  [[column]][[column_optional]]: [[column_ts_type]];",
  "[[[/columns]]]",
  "[[?join]]",
  "[[[joins]]]",
  "  [[join_alias]]?: string | number;",
  "[[[join_label]]]",
  "  [[join_label_alias]]?: string;",
  "[[[/join_label]]]",
  "[[[/joins]]]",
  "[[/?join]]",
  "\x7d",
  "",
  "export type [[class_name]]Filter = Partial<Pick<[[class_name]], [[[columns| | ]]]'[[column]]'[[[/columns]]]>>;",
  "",
  "@Injectable(\x7b providedIn: 'root' \x7d)",
  "export class [[class_name]]ReadService \x7b",
  "  constructor(private http: HttpClient) \x7b\x7d",
  "",
  "  read(filter: [[class_name]]Filter = \x7b\x7d, limit = 25, offset = 0): Observable<[[class_name]][]> \x7b",
  "    let params = new HttpParams().set('limit', limit).set('offset', offset);",
  "    for (const [key, value] of Object.entries(filter)) \x7b",
  "      if (value !== undefined && value !== null) \x7b",
  "        params = params.set(`$\x7bkey\x7d.eq`, String(value));",
  "      \x7d",
  "    \x7d",
  "    return this.http.get<[[class_name]][]>('[[endpoint_url]]', \x7b params \x7d);",
  "  \x7d",
  "\x7d"]

/-- Updates a row. -/
def putService : String := sourceOfLines [
  "// [[class_name]] update service, generated by [[generator]]",
  "import \x7b HttpClient \x7d from '@angular/common/http';",
  "import \x7b Injectable \x7d from '@angular/core';",
  "import \x7b Observable \x7d from 'rxjs';",
  "",
  "export interface [[class_name]]UpdateInput \x7b",
  "[[[primary_keys]]]",
  "  [[column]]: [[column_ts_type]];",
  "[[[/primary_keys]]]",
  "[[[columns]]]",
  "  [[column]]?: [[column_ts_type]];",
  "[[[/columns]]]",
  "\x7d",
  "",
  "@Injectable(\x7b providedIn: 'root' \x7d)",
  "export class [[class_name]]UpdateService \x7b",
  "  constructor(private http: HttpClient) \x7b\x7d",
  "",
  "  update(input: [[class_name]]UpdateInput): Observable<\x7b affected: number \x7d> \x7b",
  "    return this.http.put<\x7b affected: number \x7d>('[[endpoint_url]]', input);",
  "  \x7d",
  "\x7d"]

/-- Deletes a row. -/
def deleteService : String := sourceOfLines [
  "// [[class_name]] delete service, generated by [[generator]]",
  "import \x7b HttpClient, HttpParams \x7d from '@angular/common/http';",
  "import \x7b Injectable \x7d from '@angular/core';",
  "import \x7b Observable \x7d from 'rxjs';",
  "",
  "export interface [[class_name]]DeleteKey \x7b",
  "[[[columns]]]",
  "  [[column]]: [[column_ts_type]];",
  "[[[/columns]]]",
  "\x7d",
  "",
  "@Injectable(\x7b providedIn: 'root' \x7d)",
  "export class [[class_name]]DeleteService \x7b",
  "  constructor(private http: HttpClient) \x7b\x7d",
  "",
  "  delete(key: [[class_name]]DeleteKey): Observable<\x7b affected: number \x7d> \x7b",
  "    let params = new HttpParams();",
  "[[[columns]]]",
  "    params = params.set('[[column]].eq', String(key.[[column]]));",
  "[[[/columns]]]",
  "    return this.http.delete<\x7b affected: number \x7d>('[[endpoint_url]]', \x7b params \x7d);",
  "  \x7d",
  "\x7d"]

end Scaffold.Catalog
