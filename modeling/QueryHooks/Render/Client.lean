import QueryHooks.Integration
import QueryHooks.TypeScript.Code
import QueryHooks.TypeScript.Literal

/-! The client file: requests with a timeout, retries and errors of one type. -/

namespace QueryHooks.Render

open QueryHooks.TypeScript (Code)
open QueryHooks.TypeScript.Code

namespace Client

private def configType : List Code :=
  [braces "export type ClientConfig = " [
    .line "baseUrl?: string;",
    .line "headers?: Record<string, string>;",
    .line "fetch?: typeof fetch;",
    braces "retry?: " [
      .line "attempts?: number;",
      .line "delay?: number;",
      .line "backoff?: 'linear' | 'exponential';"] ";"] ";"]

private def errorClass : List Code :=
  [braces "export class ApiError<T = unknown> extends Error " [
    .line "status: number;",
    .line "body?: T | undefined;",
    .line "code?: string | undefined;",
    .blank,
    braces "constructor(msg: string, status: number, body?: T | undefined, code?: string | undefined) " [
      .line "super(msg);",
      .line "this.status = status;",
      .line "this.body = body;",
      .line "this.code = code;"] "",
    .blank,
    braces "static fromOpenApiTsError(error: any): ApiError " [
      parens "return new ApiError" [
        .line "error.message || 'API Error',",
        .line "error.status || 500,",
        .line "error.body,",
        .line "error.code"] ";"] ""] ""]

private def retryRules : List Code :=
  [.line "const isRetryable = (error: unknown) =>",
    .line ("  error instanceof ApiError && " ++
      "(error.status === 0 || error.status === 408 || error.status >= 500);"),
    .blank,
    .line "const sleep = (ms: number) => new Promise((resolve) => setTimeout(resolve, ms));"]

def headerLine (header : String × String) : Code :=
  .line (TypeScript.string header.1 ++ ": " ++ TypeScript.string header.2 ++ ",")

def settings (baseUrl : String) (headers : List (String × String)) : List Code :=
  [.line "const f = cfg.fetch ?? fetch;",
    .line ("const base = (cfg.baseUrl ?? " ++ TypeScript.string baseUrl ++ ").replace(/\\/$/, \"\");"),
    .line "const attempts = Math.max(1, cfg.retry?.attempts ?? 1);",
    .line "const delay = cfg.retry?.delay ?? 300;",
    .line "const backoff = cfg.retry?.backoff ?? 'exponential';",
    .blank,
    braces "const defaultHeaders: Record<string, string> = "
      ([.line "\"content-type\": \"application/json\","] ++ headers.map headerLine ++
        [.line ("...(cfg.headers ?? " ++ emptyBraces ++ ")")]) ";"]

private def httpFailure : Code :=
  braces "if (!res.ok) " [
    .line "let errorBody: any;",
    chain "try " [
      .line "const text = await res.text();",
      .line "errorBody = text ? JSON.parse(text) : undefined;"] [
      (" catch ", [.line "errorBody = undefined;"])],
    .blank,
    parens "throw new ApiError" [
      .line "res.statusText || \x60HTTP $\x7bres.status\x7d\x60,",
      .line "res.status,",
      .line "errorBody,",
      .line "res.status.toString()"] ";"] ""

private def networkFailure : List Code :=
  [.line "clearTimeout(timeoutId);",
    .blank,
    .line "if (error instanceof ApiError) throw error;",
    braces "if (error instanceof Error && error.name === 'AbortError') " [
      .line "if (callerSignal?.aborted) throw error;",
      .line "throw new ApiError('Request timeout', 408);"] "",
    .blank,
    parens "throw new ApiError" [
      .line "error instanceof Error ? error.message : 'Unknown error',",
      .line "0,",
      .line "undefined,",
      .line "'NETWORK_ERROR'"] ";"]

private def sending : List Code :=
  [braces "const res = await f(base + path, " [
      .line "...requestInit,",
      .line "method,",
      .line ("headers: " ++ inBraces
        "...defaultHeaders, ...(requestInit.headers as Record<string, string> | undefined)" ++ ","),
      .line "signal: controller.signal,"] ");",
    .blank,
    .line "clearTimeout(timeoutId);",
    .blank,
    httpFailure,
    .blank,
    .line "const text = await res.text();",
    .line ("return text ? JSON.parse(text) : (" ++ emptyBraces ++ " as T);")]

private def send : Code :=
  braces ("async function send<T>(method: string, path: string, " ++
      "requestInit: RequestInit, timeout: number): Promise<T> ") [
    .line "const controller = new AbortController();",
    .line "const callerSignal = requestInit.signal;",
    .line "const cancel = () => controller.abort();",
    .line "if (callerSignal?.aborted) controller.abort();",
    .line ("else callerSignal?.addEventListener('abort', cancel, " ++ inBraces "once: true" ++ ");"),
    .line "const timeoutId = setTimeout(() => controller.abort(), timeout);",
    .blank,
    chain "try " sending [
      (" catch (error) ", networkFailure),
      (" finally ", [.line "callerSignal?.removeEventListener('abort', cancel);"])]] ""

private def retrying : Code :=
  braces "for (let attempt = 1; ; attempt++) " [
    chain "try " [.line "return await send<T>(method, path, requestInit, timeout);"] [
      (" catch (error) ", [
        .line "if (attempt >= maxAttempts || !isRetryable(error)) throw error;",
        .line "await sleep(backoff === 'linear' ? delay * attempt : delay * 2 ** (attempt - 1));"])]] ""

private def request : List Code :=
  [.line "async function request<T>(",
    .inner [
      .line "method: string,",
      .line "path: string,",
      braces "init?: RequestInit & " [
        .line "retry?: boolean;",
        .line "timeout?: number;"] ""],
    braces "): Promise<T> " [
      .line ("const " ++ inBraces "retry = true, timeout = 30000, ...requestInit" ++
        " = init || " ++ emptyBraces ++ ";"),
      .line "const maxAttempts = retry ? attempts : 1;",
      .blank,
      retrying] ""]

def typesImport (integration : Integration) : Code :=
  .line ("import type " ++ inBraces "paths" ++ " from " ++ TypeScript.string integration.typesPath ++ ";")

def typesExport (integration : Integration) : List Code :=
  [.blank,
    .line "// OpenAPI-TS Integration",
    .line "// Import types from your openapi-typescript generated file",
    .line ("export type " ++ inBraces "paths, components" ++ " from " ++
      TypeScript.string integration.typesPath ++ ";")]

def code (baseUrl : String) (integration : Option Integration) : List Code :=
  [.line "// GENERATED FILE"] ++ (integration.map typesImport).toList ++ [.blank] ++
    configType ++ [.blank] ++ errorClass ++ [.blank] ++ retryRules ++ [.blank] ++
    [braces "export const createClient = (cfg: ClientConfig = \x7b\x7d) => "
      (settings baseUrl ((integration.bind (·.headers)).getD []) ++ [.blank, send, .blank] ++
        request ++ [.blank] ++ [.line ("return " ++ inBraces "request" ++ ";")]) ";"] ++
    (match integration with
      | none => []
      | some i => typesExport i)

end Client

def client (baseUrl : String) (integration : Option Integration) : String :=
  Code.text (Client.code baseUrl integration)

end QueryHooks.Render
